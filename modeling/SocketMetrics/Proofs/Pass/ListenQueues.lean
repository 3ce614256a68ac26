import SocketMetrics.Proofs.Channel.Points
import SocketMetrics.Proofs.Netstat.Format
import SocketMetrics.Proofs.Netstat.Published
import SocketMetrics.Proofs.Pass.Entries
import SocketMetrics.Proofs.Pass.Isolation
/-!
# Connections that listen queues refuse

The kernel counts an overflow of a listen queue as a drop as well. A pass shows the drops without
the overflows and the overflows, each in a series of its own (`refusedSeries`), and the two add up
to the larger of the counts in the file (`CountsOnce`). The correction asks for the overflows only
where the drops are counted: there, overflows that are no number make the content unreadable
(`exists_read_eq_error_of_overflows`), and elsewhere they cost their own line alone
(`exists_entries_without_overflows`), as `Table.without` tells by comparison. The points of a pass
are those of its table (`pointsOf_cellSeries`); `counts_overflows_once` is the result for a pass.
-/

set_option autoImplicit false
set_option relaxedAutoImplicit false

namespace SocketMetrics

open Channel Netstat Number

namespace Netstat

/-! ### A table without a counter -/

/-- The section without a counter. -/
def Counters.without (counters : Counters) (name : Text) : Counters :=
  { counters with entries := counters.entries.filter fun entry ↦ entry.1 ≠ name }

/-- The table without a counter of a section. -/
def Table.without (table : Table) (of : Section) (name : Text) : Table :=
  table.map fun counters ↦ if counters.of = of then counters.without name else counters

theorem Counters.raw?_without (counters : Counters) (name other : Text) :
    (counters.without name).raw? other = if other = name then none else counters.raw? other := by
  unfold Counters.raw? Counters.without
  induction counters.entries with
  | nil => simp
  | cons entry rest ih => grind

/-- Without a counter the section is written without the entry of that counter. -/
theorem Counters.entry?_without (counters : Counters) (name : Text) (timestamp : Int)
    (counter : Counter) :
    Counters.entry? (counters.without name) timestamp counter =
      if counter.counter = name then none else counters.entry? timestamp counter := by
  by_cases hname : counter.counter = name
  · rw [if_pos hname]
    exact entry?_of_missing (by rw [raw?_without, if_pos hname]) timestamp
  · have hraw : (counters.without name).raw? counter.counter = counters.raw? counter.counter := by
      rw [raw?_without, if_neg hname]
    have hof : (counters.without name).of = counters.of := rfl
    rw [if_neg hname, entry?_congr hof hraw]

theorem Table.entries_without (table : Table) (of : Section) (name : Text) (timestamp : Int) :
    (table.without of name).entries timestamp = (table ×ˢ Netstat.counters).filterMap fun cell ↦
      if (cell.1.of, cell.2.counter) = (of, name) then none
      else Counters.entry? cell.1 timestamp cell.2 := by
  have hsection (counters : Counters) :
      (if counters.of = of then counters.without name else counters).entriesAt timestamp =
        Netstat.counters.filterMap fun counter ↦
          if (counters.of, counter.counter) = (of, name) then none
          else counters.entry? timestamp counter := by
    by_cases hof : counters.of = of
    · simp [Counters.entriesAt, hof, Counters.entry?_without]
    · simp [Counters.entriesAt, hof]
  simp only [without, entries, List.flatMap_map, hsection]
  simp [SProd.sprod, List.product, List.filterMap_flatMap, List.filterMap_map]

/-- Without a counter the table is written without the entry of that counter. -/
theorem Table.exists_entries_without {table : Table} (hsections : (table.map Counters.of).Nodup)
    {counters : Counters} (hcounters : counters ∈ table) {counter : Counter}
    (hcounter : counter ∈ Netstat.counters) {timestamp : Int} {entry : Entry}
    (hentry : counters.entry? timestamp counter = some entry) :
    ∃ before after, table.entries timestamp = before ++ entry :: after ∧
      (table.without counters.of counter.counter).entries timestamp = before ++ after := by
  have hkeys : ((table ×ˢ Netstat.counters).map fun cell ↦ (cell.1.of, cell.2.counter)).Nodup := by
    rw [Table.map_cells]
    exact hsections.product nodup_counter_counters
  have hcell : (counters, counter) ∈ table ×ˢ Netstat.counters :=
    List.mem_product.mpr ⟨hcounters, hcounter⟩
  rw [entries_eq_filterMap, entries_without]
  exact Steps.exists_filterMap_without hkeys hcell hentry

/-! ### Two published counters -/

/-- The drops without the overflows. -/
def otherRefusals : Counter := tagged "ListenDrops" "failed_accept" "reason=other"

/-- The overflows. -/
def fullQueueRefusals : Counter := tagged "ListenOverflows" "failed_accept" "reason=full_acceptq"

theorem otherRefusals_mem : otherRefusals ∈ counters := by decide

theorem fullQueueRefusals_mem : fullQueueRefusals ∈ counters := by decide

/-- The overflows are in force as they were written. -/
theorem inForce_listenOverflows_iff {names values : List Text} {raw : Text} :
    InForce names values listenOverflows raw ↔ LastColumn names values listenOverflows raw := by
  rw [InForce, if_neg (by decide)]

/-- Drops are in force only where they are counted. -/
theorem InForce.listenDrops_mem {names values : List Text} {raw : Text}
    (hinForce : InForce names values listenDrops raw) : listenDrops ∈ names := by
  rw [InForce, if_pos rfl] at hinForce
  obtain ⟨written, _, _, hwritten, -⟩ := hinForce
  exact hwritten.mem

end Netstat

namespace Pass

/-- The series of the connections to a section that were refused for a reason. -/
def refusedSeries (of : Section) (reason : String) : Text × Option Text :=
  ("net.stat.".toList ++ of.name ++ ".failed_accept".toList,
    some ("reason=".toList ++ reason.toList))

theorem refusedSeries_other (counters : Counters) :
    refusedSeries counters.of "other" = cellSeries (counters, otherRefusals) := by
  obtain ⟨of, entries⟩ := counters
  cases of <;> rfl

theorem refusedSeries_fullQueue (counters : Counters) :
    refusedSeries counters.of "full_acceptq" = cellSeries (counters, fullQueueRefusals) := by
  obtain ⟨of, entries⟩ := counters
  cases of <;> rfl

section Points

variable {sources : Sources} {content : Text} {table : Table}
  (hcontent : nextContent sources.netstat = .ok content)
  (hread : (Table.read content).table = .ok table)

include hcontent hread

/-- A table that was read is written behind the warnings about it. -/
theorem allEntries_of_read (timestamp : Int) (pageSize : UInt64) :
    allEntries sources timestamp pageSize =
      (sockstatPart timestamp pageSize (nextContent sources.sockstat)).entries ++
        ((warningsOf content content.lines).map (fun warning ↦ Entry.diagnostic warning.message) ++
          table.entries timestamp) := by
  rw [allEntries, hcontent]
  simp only [netstatPart, hread, Table.read_of_ok hread]

/-- The samples of a pass end with those of its table. -/
theorem samples_of_read (timestamp : Int) (pageSize : UInt64) :
    ∃ summary, samples sources timestamp pageSize = summary ++ table.samples timestamp ∧
      (summary = [] ∨ ∃ record, summary = Sockstat.samples timestamp record pageSize) := by
  refine ⟨_, ?_, samples_sockstatPart timestamp pageSize (nextContent sources.sockstat)⟩
  rw [samples, allEntries_of_read hcontent hread]
  simp [List.filterMap_map, Function.comp_def, Entry.sample?, Table.samples]

/-- The text that a pass writes about both sources shows the sample of every published counter of
the table as the only point of its series. -/
theorem pointsOf_cellSeries {counters : Counters} (hcounters : counters ∈ table)
    {counter : Counter} (hcounter : counter ∈ Netstat.counters) (timestamp : Int)
    (pageSize : UInt64) :
    Sample.pointsOf (cellSeries (counters, counter))
        (linesText (metricLines (allEntries sources timestamp pageSize))) =
      (counters.sample? timestamp counter).toList.map Sample.point := by
  obtain ⟨summary, hsamples, hsummary⟩ := samples_of_read hcontent hread timestamp pageSize
  have hclean : ∀ sample ∈ summary ++ table.samples timestamp, sample.IsClean := by
    rw [← hsamples]
    exact fun _ hsample ↦ isClean_of_mem_samples hsample
  have hother : ∀ sample ∈ summary, sample.series ≠ cellSeries (counters, counter) := by
    intro sample hsample
    rcases hsummary with rfl | ⟨record, rfl⟩
    · cases hsample
    · exact series_ne hsample counters.of counter.label
  have htable : ∀ sample ∈ table.samples timestamp, sample.IsClean :=
    fun sample hsample ↦ hclean sample (List.mem_append_right _ hsample)
  have hcell : (counters, counter) ∈ table ×ˢ Netstat.counters :=
    List.mem_product.mpr ⟨hcounters, hcounter⟩
  rw [metricLines_eq_map_line, ← samples, hsamples, Sample.pointsOf_append_of_ne hclean hother]
  rw [Table.samples_eq_filterMap] at htable ⊢
  exact Sample.pointsOf_filterMap htable (nodup_cellSeries (nodup_map_of hread))
    (fun _ _ ↦ Counters.series_of_sample?) hcell

variable {counters : Counters} (hcounters : counters ∈ table) {counter : Counter}
  (hcounter : counter ∈ Netstat.counters)

include hcounters hcounter

/-- A counter with a number has one point. -/
theorem pointsOf_of_isCount {raw : Text} {n : ℕ} (hraw : counters.raw? counter.counter = some raw)
    (hcount : IsCount raw n) (timestamp : Int) (pageSize : UInt64) :
    Sample.pointsOf (cellSeries (counters, counter))
        (linesText (metricLines (allEntries sources timestamp pageSize))) =
      [(decimalInt timestamp, decimal n)] := by
  obtain ⟨value, -, rfl⟩ := isCount_iff.mp hcount
  rw [pointsOf_cellSeries hcontent hread hcounters hcounter, Counters.sample?,
    Counters.entry?_of_isCount hraw hcount]
  rfl

/-- A counter that its section has not has no point, and one that is no number has none either. -/
theorem pointsOf_eq_nil
    (hraw : ∀ raw n, counters.raw? counter.counter = some raw → ¬ IsCount raw n)
    (timestamp : Int) (pageSize : UInt64) :
    Sample.pointsOf (cellSeries (counters, counter))
        (linesText (metricLines (allEntries sources timestamp pageSize))) = [] := by
  rw [pointsOf_cellSeries hcontent hread hcounters hcounter, Counters.sample?]
  cases hfound : counters.raw? counter.counter with
  | none =>
    rw [Counters.entry?_of_missing hfound]
    rfl
  | some raw =>
    rw [Counters.entry?_of_not_isCount hfound fun n ↦ hraw raw n hfound]
    rfl

end Points

/-! ### Drops and overflows -/

/-- What the output stream shows about the connections to a section with the given two rows that
were refused: the drops without the overflows, where drops are counted, and the overflows, where
they are a number. Together they are the larger of the two counts. -/
structure CountsOnce (timestamp : Int) (of : Section) (names values : List Text)
    (out : Text) : Prop where
  of_drops : listenDrops ∈ names → ∃ raw drops overflows,
    LastColumn names values listenDrops raw ∧ IsCount raw drops ∧
    OverflowCount names values overflows ∧
    Sample.pointsOf (refusedSeries of "other") out =
      [(decimalInt timestamp, decimal (drops - overflows))] ∧
    (listenOverflows ∈ names → Sample.pointsOf (refusedSeries of "full_acceptq") out =
      [(decimalInt timestamp, decimal overflows)]) ∧
    drops - overflows + overflows = max drops overflows
  of_overflows : ∀ raw overflows, LastColumn names values listenOverflows raw →
    IsCount raw overflows → Sample.pointsOf (refusedSeries of "full_acceptq") out =
      [(decimalInt timestamp, decimal overflows)]
  of_no_drops : listenDrops ∉ names → Sample.pointsOf (refusedSeries of "other") out = []
  of_no_overflows : listenOverflows ∉ names →
    Sample.pointsOf (refusedSeries of "full_acceptq") out = []

theorem countsOnce {sources : Sources} {content : Text} {table : Table}
    (hcontent : nextContent sources.netstat = .ok content)
    (hread : (Table.read content).table = .ok table) {counters : Counters}
    (hcounters : counters ∈ table) {names values : List Text}
    (hrows : rowsOf counters.of content.lines = [names, values])
    (hshown : ∀ name raw, counters.raw? name = some raw ↔ InForce names values name raw)
    (timestamp : Int) (pageSize : UInt64) :
    CountsOnce timestamp counters.of names values
      (linesText (metricLines (allEntries sources timestamp pageSize))) := by
  have hformed := wellFormedRows_of_read hread hrows
  have hoverflows (raw : Text) : counters.raw? listenOverflows = some raw ↔
      LastColumn names values listenOverflows raw :=
    (hshown _ raw).trans inForce_listenOverflows_iff
  have hfull (raw : Text) (overflows : ℕ) (hcolumn : LastColumn names values listenOverflows raw)
      (hcount : IsCount raw overflows) :
      Sample.pointsOf (refusedSeries counters.of "full_acceptq")
          (linesText (metricLines (allEntries sources timestamp pageSize))) =
        [(decimalInt timestamp, decimal overflows)] := by
    rw [refusedSeries_fullQueue]
    exact pointsOf_of_isCount hcontent hread hcounters fullQueueRefusals_mem
      ((hoverflows raw).mpr hcolumn) hcount timestamp pageSize
  refine ⟨fun hlisted ↦ ?_, hfull, fun hmissing ↦ ?_, fun hmissing ↦ ?_⟩
  · obtain ⟨raw, drops, hraw, hcount⟩ := hformed.drops hlisted
    obtain ⟨overflows, htaken⟩ := hformed.exists_overflowCount hlisted
    have hcorrected : counters.raw? listenDrops = some (decimal (drops - overflows)) := by
      rw [hshown, InForce, if_pos rfl]
      exact ⟨raw, drops, overflows, hraw, hcount, htaken, rfl⟩
    have hdifference : IsCount (decimal (drops - overflows)) (drops - overflows) :=
      isCount_decimal (Nat.lt_of_le_of_lt (Nat.sub_le _ _) hcount.lt)
    refine ⟨raw, drops, overflows, hraw, hcount, htaken, ?_, fun hcounted ↦ ?_, by omega⟩
    · rw [refusedSeries_other]
      exact pointsOf_of_isCount hcontent hread hcounters otherRefusals_mem hcorrected hdifference
        timestamp pageSize
    · rcases htaken with ⟨hmissing, -⟩ | ⟨other, hother, htaken⟩
      · exact absurd hcounted hmissing
      · exact hfull other overflows hother htaken
  · rw [refusedSeries_other]
    exact pointsOf_eq_nil hcontent hread hcounters otherRefusals_mem
      (fun raw n hraw ↦ absurd ((hshown _ raw).mp hraw).listenDrops_mem hmissing) timestamp pageSize
  · rw [refusedSeries_fullQueue]
    exact pointsOf_eq_nil hcontent hread hcounters fullQueueRefusals_mem
      (fun raw n hraw ↦ absurd ((hoverflows raw).mp hraw).mem hmissing) timestamp pageSize

/-- Where the drops are not counted, overflows that are no number cost their own line and add one
message; everything else is written as it would be without them. -/
theorem exists_entries_without_overflows {sources : Sources} {content : Text} {table : Table}
    (hcontent : nextContent sources.netstat = .ok content)
    (hread : (Table.read content).table = .ok table) {counters : Counters}
    (hcounters : counters ∈ table) {raw : Text}
    (hraw : counters.raw? listenOverflows = some raw) (hcount : ∀ n, ¬ IsCount raw n)
    (timestamp : Int) (pageSize : UInt64) :
    ∃ before after,
      (table.without counters.of listenOverflows).entries timestamp = before ++ after ∧
      linesText (metricLines (allEntries sources timestamp pageSize)) =
        (summaryContribution timestamp pageSize sources.sockstat).out ++
          linesText (metricLines (before ++ after)) ∧
      linesText (messageLines (allEntries sources timestamp pageSize)) =
        (summaryContribution timestamp pageSize sources.sockstat).err ++
          linesText ((warningsOf content content.lines).map Warning.message ++
            messageLines before ++
            (TableError.invalidValue counters.of listenOverflows raw).message ::
              messageLines after) := by
  have hentry : counters.entry? timestamp fullQueueRefusals =
      some (.diagnostic (TableError.invalidValue counters.of listenOverflows raw).message) :=
    Counters.entry?_of_not_isCount hraw hcount timestamp
  obtain ⟨before, after, hall, hothers⟩ :=
    Table.exists_entries_without (nodup_map_of hread) hcounters fullQueueRefusals_mem hentry
  refine ⟨before, after, hothers, ?_, ?_⟩
  · rw [allEntries_of_read hcontent hread, hall, metricLines_append, linesText_append]
    simp [metricLines, summaryContribution, Part.contribution]
  · rw [allEntries_of_read hcontent hread, hall, messageLines_append, linesText_append]
    simp [messageLines, summaryContribution, Part.contribution]

/-- Where the drops are counted, overflows that are no number make the content unreadable. -/
theorem exists_read_eq_error_of_overflows {content : Text} {of : Section}
    {names values : List Text} {raw : Text} (hrows : rowsOf of content.lines = [names, values])
    (hlisted : listenDrops ∈ names) (hraw : LastColumn names values listenOverflows raw)
    (hcount : ∀ n, ¬ IsCount raw n) : ∃ error, (Table.read content).table = .error error := by
  cases hread : (Table.read content).table with
  | error error => exact ⟨error, rfl⟩
  | ok table =>
    have hformed := wellFormedRows_of_read hread hrows
    obtain ⟨other, overflows, hother, hoverflows⟩ := hformed.overflows hlisted hraw.mem
    rw [hother.unique hformed.length_eq hraw] at hoverflows
    exact absurd hoverflows (hcount overflows)

/-- **The overflows of the listen queues are counted once.** Whatever table a pass over streams that
never fail has read, the output stream shows for each of its sections the drops without the
overflows and the overflows, from the last columns of these names. A section without drops shows
none, and overflows in it that are no number cost their own line and add one message. In a section
with drops they make the whole content unreadable. -/
theorem counts_overflows_once {sources : Sources} {streams : Streams} (timestamp : Int)
    (pageSize : UInt64) (hstreams : streams.NeverFail) {content : Text}
    (hcontent : nextContent sources.netstat = .ok content) :
    (∀ table, (Table.read content).table = .ok table → ∀ of ∈ table.map Counters.of,
      ∃ names values out err, rowsOf of content.lines = [names, values] ∧
        (run sources streams timestamp pageSize).streams.out.written =
          streams.out.written ++ out ∧
        (run sources streams timestamp pageSize).streams.err.written =
          streams.err.written ++ err ∧
        CountsOnce timestamp of names values out ∧
        (listenDrops ∉ names → ∀ raw, LastColumn names values listenOverflows raw →
          (∀ n, ¬ IsCount raw n) →
          Sample.pointsOf (refusedSeries of "full_acceptq") out = [] ∧
          ∃ before after, (table.without of listenOverflows).entries timestamp = before ++ after ∧
            out = (summaryContribution timestamp pageSize sources.sockstat).out ++
              linesText (metricLines (before ++ after)) ∧
            err = (summaryContribution timestamp pageSize sources.sockstat).err ++
              linesText ((warningsOf content content.lines).map Warning.message ++
                messageLines before ++
                (TableError.invalidValue of listenOverflows raw).message ::
                  messageLines after))) ∧
    ∀ of names values raw, rowsOf of content.lines = [names, values] → listenDrops ∈ names →
      LastColumn names values listenOverflows raw → (∀ n, ¬ IsCount raw n) →
      ∃ error, (Table.read content).table = .error error := by
  refine ⟨fun table hread of hof ↦ ?_,
    fun _ _ _ _ ↦ exists_read_eq_error_of_overflows⟩
  obtain ⟨counters, hcounters, rfl⟩ := List.mem_map.mp hof
  obtain ⟨names, values, hrows, hshown⟩ := (shows_of_read hread).raw?_iff counters hcounters
  have hrun := run_eq_of_neverFail sources timestamp pageSize hstreams
  refine ⟨names, values, linesText (metricLines (allEntries sources timestamp pageSize)),
    linesText (messageLines (allEntries sources timestamp pageSize)), hrows, ?_, ?_,
    countsOnce hcontent hread hcounters hrows hshown timestamp pageSize,
    fun _ raw hcolumn hcount ↦ ?_⟩
  · rw [hrun]
    rfl
  · rw [hrun]
    rfl
  · have hraw : counters.raw? listenOverflows = some raw :=
      (hshown _ raw).mpr (inForce_listenOverflows_iff.mpr hcolumn)
    refine ⟨?_, exists_entries_without_overflows hcontent hread hcounters hraw hcount timestamp
      pageSize⟩
    rw [refusedSeries_fullQueue]
    refine pointsOf_eq_nil hcontent hread hcounters fullQueueRefusals_mem
      (fun other n hother ↦ ?_) timestamp pageSize
    exact Option.some.inj (hraw.symm.trans hother) ▸ hcount n

/-- In one section four overflows are taken out of ten drops; in another they are no number. -/
theorem counts_overflows_of_two_sections :
    let content : Text := "TcpExt: ListenOverflows ListenDrops\nTcpExt: +04 10\n".toList ++
      "Ip: ListenOverflows\nIp: x\n".toList
    let sources : Sources := ⟨.constant .directory, .constant (.ofBytes content.toUtf8)⟩
    let out := (run sources .unbounded 7 4096).streams.out.written
    Sample.pointsOf (refusedSeries .tcp "other") out = [("7".toList, "6".toList)] ∧
      Sample.pointsOf (refusedSeries .tcp "full_acceptq") out = [("7".toList, "4".toList)] ∧
      Sample.pointsOf (refusedSeries .ip "full_acceptq") out = [] := by
  intro content sources out
  have hread : (Table.read content).table = .ok [
      ⟨.tcp, [(listenDrops, "6".toList), (listenDrops, "10".toList),
        (listenOverflows, "+04".toList)]⟩,
      ⟨.ip, [(listenOverflows, "x".toList)]⟩] := by
    decide +kernel
  have hstreams : Streams.unbounded.NeverFail := ⟨⟨rfl, rfl⟩, ⟨rfl, rfl⟩⟩
  have hcontent : nextContent sources.netstat = .ok content := nextContent_constant content
  have hcounts := (counts_overflows_once 7 4096 hstreams hcontent).1 _ hread
  obtain ⟨names, values, shown, _, hrows, hout, -, hcounted, -⟩ := hcounts .tcp (by simp)
  obtain ⟨names', values', shown', _, hrows', hout', -, -, hskipped⟩ := hcounts .ip (by simp)
  have htcp : rowsOf .tcp content.lines =
      [[listenOverflows, listenDrops], ["+04".toList, "10".toList]] := by
    decide +kernel
  have hip : rowsOf .ip content.lines = [[listenOverflows], ["x".toList]] := by
    decide +kernel
  rw [htcp] at hrows
  rw [hip] at hrows'
  cases hrows
  cases hrows'
  obtain ⟨raw, drops, overflows, hcolumn, hraw, htaken, hdrops, -⟩ := hcounted.of_drops (by decide)
  have hlength : [listenOverflows, listenDrops].length = ["+04".toList, "10".toList].length := rfl
  have hfour : LastColumn [listenOverflows, listenDrops] ["+04".toList, "10".toList]
      listenOverflows "+04".toList :=
    (lookup_columns_eq_some_iff hlength _ _).mp (by decide)
  have hten : LastColumn [listenOverflows, listenDrops] ["+04".toList, "10".toList]
      listenDrops "10".toList :=
    (lookup_columns_eq_some_iff hlength _ _).mp (by decide)
  have hfourCount : IsCount "+04".toList 4 := isCount_iff.mpr ⟨4, by decide, rfl⟩
  obtain rfl := hcolumn.unique hlength hten
  obtain rfl : drops = 10 := hraw.unique (isCount_iff.mpr ⟨10, by decide, rfl⟩)
  obtain rfl : overflows = 4 := htaken.unique hlength (Or.inr ⟨_, hfour, hfourCount⟩)
  have hbroken : LastColumn [listenOverflows] ["x".toList] listenOverflows "x".toList := by
    refine (lookup_columns_eq_some_iff ?_ _ _).mp ?_
    · rfl
    · decide
  have hnoCount (n : ℕ) : ¬ IsCount "x".toList n := by
    have hnone : count? "x".toList = none := by decide
    rw [isCount_iff, hnone]
    simp
  change out = shown at hout
  change out = shown' at hout'
  refine ⟨?_, ?_, ?_⟩
  · rw [hout]
    exact hdrops
  · rw [hout]
    exact hcounted.of_overflows _ _ hfour hfourCount
  · rw [hout']
    exact (hskipped (by decide) _ hbroken hnoCount).1

end Pass

end SocketMetrics
