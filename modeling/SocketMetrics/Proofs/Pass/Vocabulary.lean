import SocketMetrics.Proofs.Netstat.Layout
import SocketMetrics.Proofs.Pass.Timing
import SocketMetrics.Proofs.Sockstat.RoundTrip
import SocketMetrics.Proofs.Text.Encoding
import SocketMetrics.Proofs.Text.Spacing
/-!
# The lines that a pass can write

`IsMetricLine` says which lines may stand in the output stream at a time: a name that is listed in
the tables of the program, the time, the canonical numeral of a number below 2^64, and the tags that
are listed with the name. `speaks_vocabulary` says that whatever the sources show and however the
streams behave, a pass writes such lines only, and that every one of them is written by some pass.
The first part follows the samples back to the tables (`isListed_of_mem_samples`); the second one
writes a summary in which every counter is the wanted number (`exists_written_summary`) or a table
of one counter (`exists_written_table`).
-/

set_option autoImplicit false
set_option relaxedAutoImplicit false

namespace SocketMetrics

open Channel Netstat Number Text

/-! ### What is listed -/

/-- The metrics of the socket allocation summary with the tags that they bear. -/
def Sockstat.listing : List (Text × Option Text) := [
  ("num_sockets".toList, some "type=tcp".toList),
  ("num_timewait".toList, none),
  ("sockets_inuse".toList, some "type=tcp".toList),
  ("sockets_inuse".toList, some "type=udp".toList),
  ("sockets_inuse".toList, some "type=udplite".toList),
  ("sockets_inuse".toList, some "type=raw".toList),
  ("num_orphans".toList, none),
  ("memory".toList, some "type=tcp".toList),
  ("memory".toList, some "type=udp".toList),
  ("memory".toList, some "type=ipfrag".toList),
  ("ipfragqueues".toList, none)]

theorem Sockstat.labels_eq : labels = listing := by
  decide +kernel

/-- The full name of a metric and its tags stand in the tables of the program. -/
inductive IsListed : Text → Option Text → Prop where
  /-- A metric of the socket allocation summary. -/
  | summary {metric : Text} {tags : Option Text} (hmetric : (metric, tags) ∈ Sockstat.listing) :
      IsListed ("net.sockstat.".toList ++ metric) tags
  /-- A published counter under one of the sections into which the headers fold. -/
  | table {header : Text} {of : Section} {counter : Counter} (hheader : (header, of) ∈ headers)
      (hcounter : counter ∈ counters) :
      IsListed ("net.stat.".toList ++ of.name ++ '.' :: counter.metric) counter.tags

/-- The line has three or four fields with one space between each two of them: the listed name of a
metric, the given time, the canonical numeral of a number below 2^64 and, if there are any, the
listed tags. -/
def IsMetricLine (timestamp : Int) (line : Text) : Prop :=
  ∃ name tags, IsListed name tags ∧ ∃ value : UInt64,
    line.pieces (· == ' ') = name :: decimalInt timestamp :: decimal value.toNat :: tags.toList

/-- The spaces of a line tell its fields apart. -/
theorem Sample.IsClean.pieces_line {sample : Sample} (hclean : sample.IsClean) :
    sample.line.pieces (· == ' ') =
      sample.name :: decimalInt sample.timestamp :: decimal sample.value.toNat ::
        sample.tags.toList := by
  have hname : ' ' ∉ sample.name := hclean.name.not_mem (by decide)
  have htime : ' ' ∉ decimalInt sample.timestamp := (isWord_decimalInt _).not_mem (by decide)
  have hvalue : ' ' ∉ decimal sample.value.toNat := (isWord_decimal _).not_mem (by decide)
  rw [sample.line_eq, hclean.shownTags_eq, pieces_append_of_not_mem hname,
    pieces_append_of_not_mem htime]
  cases htags : sample.tags with
  | none => simp [pieces_of_not_mem hvalue]
  | some tags =>
    have htag : ' ' ∉ tags := (hclean.tags tags htags).not_mem (by decide)
    simp [pieces_append_of_not_mem hvalue, pieces_of_not_mem htag]

/-! ### Samples bear listed names -/

theorem Sockstat.isListed_of_mem_samples {timestamp : Int} {record : Record} {pageSize : UInt64}
    {sample : Sample} (hsample : sample ∈ samples timestamp record pageSize) :
    sample.timestamp = timestamp ∧ IsListed sample.name sample.tags := by
  obtain ⟨hgroup, hlabel⟩ := mem_labels_of_mem_samples hsample
  rw [labels_eq] at hlabel
  have hname : sample.name = "net.sockstat.".toList ++ sample.metric := by
    rw [Sample.name, hgroup]
    rfl
  obtain ⟨metric, -, hpick⟩ := List.mem_filterMap.mp hsample
  obtain ⟨value, -, rfl⟩ := Option.map_eq_some_iff.mp hpick
  refine ⟨rfl, ?_⟩
  rw [hname]
  exact .summary hlabel

namespace Netstat

/-- Every section has a header. -/
theorem exists_mem_headers (of : Section) : ∃ header, (header, of) ∈ headers := by
  have hall : ∀ of ∈ headers.map Prod.snd, ∃ header, (header, of) ∈ headers := by
    intro of hof
    obtain ⟨⟨header, _⟩, hheader, rfl⟩ := List.mem_map.mp hof
    exact ⟨header, hheader⟩
  cases of <;> exact hall _ (by decide)

theorem sectionGroup_eq (of : Section) : sectionGroup of.name = "net.stat.".toList ++ of.name := by
  cases of <;> rfl

theorem Table.isListed_of_mem_samples {timestamp : Int} {table : Table} {sample : Sample}
    (hsample : sample ∈ table.samples timestamp) :
    sample.timestamp = timestamp ∧ IsListed sample.name sample.tags := by
  obtain ⟨entry, hentry, hmetric⟩ := List.mem_filterMap.mp hsample
  obtain ⟨counters, -, counter, hcounter, hsome⟩ := Table.mem_entries_iff.mp hentry
  rcases Counters.entry?_cases hsome with ⟨value, rfl⟩ | ⟨raw, rfl⟩
  · cases hmetric
    obtain ⟨header, hheader⟩ := exists_mem_headers counters.of
    refine ⟨rfl, ?_⟩
    rw [Sample.name, sectionGroup_eq]
    exact .table hheader hcounter
  · cases hmetric

end Netstat

namespace Pass

/-- The samples of a pass bear its time, listed names and listed tags. -/
theorem isListed_of_mem_samples {sources : Sources} {timestamp : Int} {pageSize : UInt64}
    {sample : Sample} (hsample : sample ∈ samples sources timestamp pageSize) :
    sample.timestamp = timestamp ∧ IsListed sample.name sample.tags := by
  obtain ⟨summary, table, hsamples, hsummary, htable⟩ := samples_cases sources timestamp pageSize
  rw [hsamples, List.mem_append] at hsample
  rcases hsample with hmem | hmem
  · rcases hsummary with rfl | ⟨record, rfl⟩
    · cases hmem
    · exact Sockstat.isListed_of_mem_samples hmem
  · rcases htable with rfl | ⟨content, counters, -, rfl⟩
    · cases hmem
    · exact counters.isListed_of_mem_samples hmem

theorem isMetricLine_of_mem_metricLines {sources : Sources} {timestamp : Int} {pageSize : UInt64}
    {line : Text} (hline : line ∈ metricLines (allEntries sources timestamp pageSize)) :
    IsMetricLine timestamp line := by
  rw [metricLines_eq_map_line] at hline
  obtain ⟨sample, hsample, rfl⟩ := List.mem_map.mp hline
  obtain ⟨rfl, hlisted⟩ := isListed_of_mem_samples hsample
  exact ⟨_, _, hlisted, sample.value, (isClean_of_mem_samples hsample).pieces_line⟩

/-- The lines of a pass are metric lines, the last of which may lack its line feed if a stream has
failed. -/
theorem exists_lines_of_run (sources : Sources) (streams : Streams) (timestamp : Int)
    (pageSize : UInt64) :
    ∃ text lines, (run sources streams timestamp pageSize).streams.out.written =
        streams.out.written ++ text ∧
      (text.lines = lines ++ [[]] ∨
        text.lines = lines ∧
          ∃ fault, (run sources streams timestamp pageSize).outcome = .error fault) ∧
      ∀ line ∈ lines, IsMetricLine timestamp line := by
  have hmetric {line : Text} (hline : line ∈ metricLines (allEntries sources timestamp pageSize)) :
      '\n' ∉ line ∧ IsMetricLine timestamp line :=
    ⟨(isOneLine_of_mem_metricLines hline).1, isMetricLine_of_mem_metricLines hline⟩
  have hlast : '\n' ∉ ([] : Text) := List.not_mem_nil
  obtain ⟨lines, text, hfirst, hwritten, hshows⟩ :=
    (Emitter.start streams timestamp).shows_out_deliver (allEntries sources timestamp pageSize)
  have hrun := (written_run sources streams timestamp pageSize).1.trans hwritten
  cases houtcome : (run sources streams timestamp pageSize).outcome with
  | ok report =>
    -- nothing is missing
    rw [(run_of_ok houtcome).1] at hwritten
    have htext : text = linesText (metricLines (allEntries sources timestamp pageSize)) :=
      (List.append_cancel_left hwritten).symm
    refine ⟨text, metricLines (allEntries sources timestamp pageSize), hrun, Or.inl ?_,
      fun line hline ↦ (hmetric hline).2⟩
    rw [htext, ← List.append_nil (linesText _)]
    exact lines_linesText_append (fun line hline ↦ (hmetric hline).1) hlast
  | error fault =>
    refine ⟨text, lines, hrun, ?_, fun line hline ↦ (hmetric (hfirst.subset hline)).2⟩
    have hline : ∀ line ∈ lines, '\n' ∉ line := fun line hline ↦ (hmetric (hfirst.subset hline)).1
    rcases hshows with rfl | ⟨front, last, rfl, rfl⟩
    · left
      rw [← List.append_nil (linesText _)]
      exact lines_linesText_append hline hlast
    · right
      refine ⟨?_, fault, rfl⟩
      exact lines_linesText_append (fun line hfront ↦ hline line (by simp [hfront]))
        (hline last (by simp))

end Pass

/-! ### Every metric line is written -/

section Published

variable {timestamp : Int} {value : UInt64}

/-- The line of every sample of a pass is written over streams that never fail. -/
theorem Pass.mem_lines_of_mem_samples {sources : Sources} {pageSize : UInt64} {sample : Sample}
    (hsample : sample ∈ samples sources timestamp pageSize) :
    sample.line ∈ (run sources .unbounded timestamp pageSize).streams.out.written.lines := by
  have hnever : Streams.unbounded.NeverFail := ⟨⟨rfl, rfl⟩, ⟨rfl, rfl⟩⟩
  have hone : ∀ line ∈ metricLines (allEntries sources timestamp pageSize), '\n' ∉ line :=
    fun line hline ↦ (isOneLine_of_mem_metricLines hline).1
  have hlast : '\n' ∉ ([] : Text) := List.not_mem_nil
  have hlines := lines_linesText_append hone hlast
  have hwritten := written_of_neverFail sources timestamp pageSize hnever
  change _ = [] ++ _ at hwritten
  rw [List.append_nil] at hlines
  rw [hwritten, List.nil_append, hlines, metricLines_eq_map_line]
  exact List.mem_append_left _ (List.mem_map_of_mem hsample)

namespace Sockstat

/-- The record in which every counter is the given one. -/
def uniform (value : UInt64) : Record :=
  ⟨value, value, value, value, value, value, some value, some value, value, value, value⟩

/-- With pages of one byte, all metrics of a uniform record have its value. -/
theorem mem_samples_uniform {metric : Text} {tags : Option Text}
    (hmetric : (metric, tags) ∈ listing) (timestamp : Int) (value : UInt64) :
    ⟨metricGroup, metric, timestamp, value, tags⟩ ∈ samples timestamp (uniform value) 1 := by
  have hbytes : saturatingMul value 1 = value := by
    have hbound := value.toNat_lt
    apply UInt64.toNat_inj.mp
    rw [toNat_saturatingMul, UInt64.toNat_one]
    have hsize : UInt64.size = 2 ^ 64 := rfl
    omega
  have hall : samples timestamp (uniform value) 1 = labels.map fun label ↦
      ⟨metricGroup, label.1, timestamp, value, label.2⟩ := by
    simp only [samples, metrics, uniform, hbytes, Option.map_some]
    rfl
  rw [hall, labels_eq]
  exact List.mem_map_of_mem hmetric

end Sockstat

namespace Netstat

/-- The table of one section with one counter. -/
def single (header counter raw : Text) : Text :=
  header ++ ' ' :: counter ++ '\n' :: (header ++ ' ' :: raw)

theorem row?_of_isWord {header cell : Text} {of : Section}
    (hheader : Section.ofHeader? header = some of) (hcell : cell.IsWord) :
    row? (header ++ ' ' :: cell) = some (of, [cell]) := by
  refine row?_eq_some_iff.mpr ⟨header, ?_, hheader⟩
  rw [(isWord_of_ofHeader? hheader).words_append_cons (by decide), hcell.words_eq]

theorem lines_single {header counter raw : Text} (hheader : header.IsWord)
    (hcounter : counter.IsWord) (hraw : raw.IsWord) :
    (single header counter raw).lines = [header ++ ' ' :: counter, header ++ ' ' :: raw] := by
  have hline {cell : Text} (hcell : cell.IsWord) : '\n' ∉ header ++ ' ' :: cell := by
    simp [hheader.lineFeed_not_mem, hcell.lineFeed_not_mem]
  rw [single, lines_append_lineFeed, lines_of_not_mem (hline hcounter),
    lines_of_not_mem (hline hraw)]
  rfl

/-- The correction leaves the number of a counter that stands alone. -/
theorem exists_correct_single (of : Section) (counter : Text) (value : UInt64) :
    ∃ counters : Counters, Counters.correct ⟨of, columns [counter] [decimal value.toNat]⟩ =
        .ok counters ∧ counters.of = of ∧ counters.value? counter = .ok (some value) := by
  have hcount := isCount_decimal value.toNat_lt
  have hraw (name : Text) : Counters.raw? ⟨of, columns [counter] [decimal value.toNat]⟩ name =
      if name = counter then some (decimal value.toNat) else none := by
    simp only [Counters.raw?, columns, List.zip_cons_cons, List.zip_nil_left,
      List.reverse_singleton, List.lookup_cons, List.lookup_nil]
    by_cases hname : name = counter
    · simp [hname]
    · simp [beq_false_of_ne hname, hname]
  by_cases hdrops : listenDrops = counter
  · have hoverflows : listenOverflows ≠ counter := hdrops ▸ by decide
    refine ⟨_, Counters.correct_eq_ok_iff.mpr (Or.inr ⟨_, _, 0, (hraw _).trans (if_pos hdrops),
      hcount, Or.inl ⟨(hraw _).trans (if_neg hoverflows), rfl⟩, rfl⟩), rfl, ?_⟩
    refine Counters.value?_eq_ok_some_iff.mpr ⟨decimal value.toNat, ?_, hcount⟩
    rw [Counters.raw?_insert, if_pos hdrops.symm, Nat.sub_zero]
  · refine ⟨_, Counters.correct_eq_ok_iff.mpr (Or.inl ⟨(hraw _).trans (if_neg hdrops), rfl⟩), rfl,
      ?_⟩
    exact Counters.value?_eq_ok_some_iff.mpr ⟨_, (hraw _).trans (if_pos rfl), hcount⟩

/-- The table of one counter is read, with the counter as its number. -/
theorem exists_read_single {header counter : Text} {of : Section}
    (hheader : Section.ofHeader? header = some of) (hcounter : counter.IsWord) (value : UInt64) :
    ∃ counters : Counters,
      (Table.read (single header counter (decimal value.toNat))).table = .ok [counters] ∧
        counters.of = of ∧ counters.value? counter = .ok (some value) := by
  have hraw := isWord_decimal value.toNat
  have hlines := lines_single (isWord_of_ofHeader? hheader) hcounter hraw
  have hnames := row?_of_isWord hheader hcounter
  have hvalues := row?_of_isWord hheader hraw
  obtain ⟨counters, hcorrect, hof, hvalue⟩ := exists_correct_single of counter value
  refine ⟨counters, (Table.read_eq_ok_iff _ _).mpr ?_, hof, hvalue⟩
  have hsections : sectionsOf (single header counter (decimal value.toNat)).lines = [of] := by
    rw [hlines]
    simp [sectionsOf, hnames, hvalues, List.eraseDups_cons]
  rw [hsections, hlines]
  refine .cons ⟨[counter], [decimal value.toNat], ?_, rfl, hcorrect⟩ .nil
  simp [rowsOf, hnames, hvalues]

end Netstat

namespace Pass

/-- Every number is published under every metric of the summary. -/
theorem exists_written_summary {metric : Text} {tags : Option Text}
    (hmetric : (metric, tags) ∈ Sockstat.listing) (timestamp : Int) (value : UInt64) :
    ∃ sources, ⟨Sockstat.metricGroup, metric, timestamp, value, tags⟩ ∈
      samples sources timestamp 1 := by
  have hused : isNumeral "0".toList = true := by decide
  obtain ⟨content, hread⟩ : ∃ content, Sockstat.read content = .ok (Sockstat.uniform value) :=
    ⟨_, Sockstat.read_append (Sockstat.isSummary_write hused _) (Sockstat.denotes_decimal _) []⟩
  refine ⟨⟨.constant (.ofBytes content.toUtf8), .constant .directory⟩, ?_⟩
  unfold samples allEntries
  rw [nextContent_constant, List.filterMap_append, List.mem_append]
  left
  simp only [sockstatPart, hread]
  rw [List.filterMap_map]
  exact List.mem_filterMap.mpr ⟨_, Sockstat.mem_samples_uniform hmetric timestamp value, rfl⟩

/-- Every number is published as every published counter of every section. -/
theorem exists_written_table {header : Text} {of : Section} {counter : Counter}
    (hheader : (header, of) ∈ headers) (hcounter : counter ∈ counters) (timestamp : Int)
    (value : UInt64) :
    ∃ sources, ⟨sectionGroup of.name, counter.metric, timestamp, value, counter.tags⟩ ∈
      samples sources timestamp 1 := by
  have hfirst : ∀ entry ∈ headers, Section.ofHeader? entry.1 = some entry.2 := by decide
  obtain ⟨content, counters, hread, rfl, hvalue⟩ : ∃ content, ∃ counters : Counters,
      (Table.read content).table = .ok [counters] ∧ counters.of = of ∧
        counters.value? counter.counter = .ok (some value) :=
    ⟨_, exists_read_single (hfirst _ hheader) (isWord_of_mem_counters hcounter).1 value⟩
  refine ⟨⟨.constant .directory, .constant (.ofBytes content.toUtf8)⟩, ?_⟩
  unfold samples allEntries
  rw [nextContent_constant, List.filterMap_append, List.mem_append]
  right
  refine List.mem_filterMap.mpr ⟨.metric _, ?_, rfl⟩
  simp only [netstatPart, hread]
  refine List.mem_append_right _ (Table.mem_entries_iff.mpr
    ⟨counters, List.mem_singleton_self _, counter, hcounter, ?_⟩)
  simp only [Counters.entry?, hvalue]

/-- Every metric line is written by some pass. -/
theorem exists_written_line {line : Text} (hline : IsMetricLine timestamp line) :
    ∃ sources, line ∈ (run sources .unbounded timestamp 1).streams.out.written.lines := by
  obtain ⟨name, tags, hlisted, value, hpieces⟩ := hline
  obtain ⟨sources, sample, hsample, hname, htime, hvalue, htags⟩ : ∃ sources sample,
      sample ∈ samples sources timestamp 1 ∧ sample.name = name ∧ sample.timestamp = timestamp ∧
        sample.value = value ∧ sample.tags = tags := by
    cases hlisted with
    | summary hmetric =>
      obtain ⟨sources, hsample⟩ := exists_written_summary hmetric timestamp value
      exact ⟨sources, _, hsample, rfl, rfl, rfl, rfl⟩
    | table hheader hcounter =>
      obtain ⟨sources, hsample⟩ := exists_written_table hheader hcounter timestamp value
      refine ⟨sources, _, hsample, ?_, rfl, rfl, rfl⟩
      rw [Sample.name, sectionGroup_eq]
  have hsame : sample.line = line := by
    refine pieces_injective ' ' ?_
    change sample.line.pieces (· == ' ') = line.pieces (· == ' ')
    rw [hpieces, (isClean_of_mem_samples hsample).pieces_line, hname, htime, hvalue, htags]
  exact ⟨sources, hsame ▸ mem_lines_of_mem_samples hsample⟩

end Pass

end Published

/-- Whatever its sources show and however its streams behave, a pass writes to the output stream
metric lines of its time and nothing else; the last of them may lack its line feed if the pass
fails. Every metric line of the time is written by some pass. -/
theorem Pass.speaks_vocabulary (timestamp : Int) :
    (∀ sources streams pageSize, ∃ text lines,
        (run sources streams timestamp pageSize).streams.out.written =
            streams.out.written ++ text ∧
          (text.lines = lines ++ [[]] ∨
            text.lines = lines ∧
              ∃ fault, (run sources streams timestamp pageSize).outcome = .error fault) ∧
          ∀ line ∈ lines, IsMetricLine timestamp line) ∧
      ∀ line, IsMetricLine timestamp line →
        ∃ sources, line ∈ (run sources .unbounded timestamp 1).streams.out.written.lines :=
  ⟨fun sources streams pageSize ↦ exists_lines_of_run sources streams timestamp pageSize,
    fun _ hline ↦ exists_written_line hline⟩

end SocketMetrics
