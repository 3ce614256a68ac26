import Mathlib.Data.Finset.Card
import SocketMetrics.Proofs.Channel.Lines
import SocketMetrics.Proofs.Pass.Entries
import SocketMetrics.Proofs.Pass.Isolation
import SocketMetrics.Startup.Inspection
/-!
# What an inspection tells about a pass

An inspection and a pass go through the same two sources in different ways: the inspection stops at
the first failure, and a pass turns failures into messages and goes on. They agree all the same. The
error of an inspection is that of the first of its six stages that fails (`inspect_eq_error_iff`),
where `Stage.Fails` says of every stage by itself with which error it fails. An inspection succeeds
when the sources can be opened and a pass over them finds both of them sound, and what it counts are
the lines that this pass writes about the summary and the sections that the headers of the table
announce (`predicts_pass`).
-/

set_option autoImplicit false
set_option relaxedAutoImplicit false

namespace SocketMetrics.Startup

open Channel Files Netstat Steps

variable {files : FileSystem} {paths : SourcePaths}

/-! ### Stages -/

/-- What an inspection does, step by step. -/
inductive Stage where
  | openSockstat
  | openNetstat
  | readSockstat
  | parseSockstat
  | readNetstat
  | parseNetstat
deriving DecidableEq, Repr

/-- The stages in their order. -/
def Stage.all : List Stage :=
  [openSockstat, openNetstat, readSockstat, parseSockstat, readNetstat, parseNetstat]

/-- Nothing can be opened at the path. -/
def FailsToOpen (files : FileSystem) (path : RawText) (error : SourceError) : Prop :=
  ∃ fault, files.versionAt path = .error fault ∧ error = .opening path fault

/-- Something can be opened at the path, but not be read. -/
def FailsToRead (files : FileSystem) (path : RawText) (error : SourceError) : Prop :=
  ∃ version fault, files.versionAt path = .ok version ∧ version.content = .error fault ∧
    error = .reading path fault

/-- The stage has something to work on and fails at it with the error. -/
def Stage.Fails (files : FileSystem) (paths : SourcePaths) : Stage → SourceError → Prop
  | openSockstat, error => FailsToOpen files paths.sockstat error
  | openNetstat, error => FailsToOpen files paths.netstat error
  | readSockstat, error => FailsToRead files paths.sockstat error
  | parseSockstat, error => ∃ content cause, files.readText paths.sockstat = .ok content ∧
      Sockstat.read content = .error cause ∧ error = .sockstat cause
  | readNetstat, error => FailsToRead files paths.netstat error
  | parseNetstat, error => ∃ content cause, files.readText paths.netstat = .ok content ∧
      (Table.read content).table = .error cause ∧ error = .netstat cause

/-- An inspection opens the sources and tells what they hold. -/
theorem outcome_inspect (files : FileSystem) (paths : SourcePaths) :
    (inspect files paths).outcome = do
      let sources ← openSources files paths
      let (found, _) ← findings paths sources
      return found := by
  unfold inspect
  cases openSources files paths with
  | error error => rfl
  | ok sources =>
    simp only [bind, Except.bind]
    cases findings paths sources <;> rfl

/-- An inspection as its six stages one after the other. -/
theorem outcome_inspect_eq_stages (files : FileSystem) (paths : SourcePaths) :
    (inspect files paths).outcome = do
      let summaryVersion ← (files.versionAt paths.sockstat).mapError (.opening paths.sockstat)
      let tableVersion ← (files.versionAt paths.netstat).mapError (.opening paths.netstat)
      let summary ← summaryVersion.content.mapError (.reading paths.sockstat)
      let record ← (Sockstat.read summary).mapError .sockstat
      let content ← tableVersion.content.mapError (.reading paths.netstat)
      let table ← (Table.read content).table.mapError .netstat
      return ⟨Sockstat.fieldCount - record.missing, table.length⟩ := by
  rw [outcome_inspect]
  unfold openSources FileSystem.openAt
  rcases files.versionAt paths.sockstat with fault | summaryVersion
  · rfl
  rcases files.versionAt paths.netstat with fault | tableVersion
  · rfl
  simp only [Except.map, Except.mapError, pure_bind, bind_assoc, findings, readSource,
    Source.content_reread]
  rfl

/-- An inspection fails with the error of the first stage that fails. -/
theorem inspect_eq_error_iff {error : SourceError} :
    (inspect files paths).outcome = .error error ↔
      FirstFault (Stage.Fails files paths) Stage.all error := by
  rw [outcome_inspect_eq_stages]
  refine bind_eq_error_iff_firstFault (fun error ↦ ?_) fun summaryVersion hsockstat ↦ ?_
  · simp [Stage.Fails, FailsToOpen]
  refine bind_eq_error_iff_firstFault (fun error ↦ ?_) fun tableVersion hnetstat ↦ ?_
  · simp [Stage.Fails, FailsToOpen]
  rw [mapError_eq_ok_iff] at hsockstat hnetstat
  refine bind_eq_error_iff_firstFault (fun error ↦ ?_) fun summary hsummary ↦ ?_
  · simp [Stage.Fails, FailsToRead, hsockstat]
  rw [mapError_eq_ok_iff] at hsummary
  have hread : files.readText paths.sockstat = .ok summary := by
    simp [FileSystem.readText, hsockstat, hsummary, bind, Except.bind]
  refine bind_eq_error_iff_firstFault (fun error ↦ ?_) fun record hrecord ↦ ?_
  · simp [Stage.Fails, hread]
  refine bind_eq_error_iff_firstFault (fun error ↦ ?_) fun content hcontent ↦ ?_
  · simp [Stage.Fails, FailsToRead, hnetstat]
  rw [mapError_eq_ok_iff] at hcontent
  have hread : files.readText paths.netstat = .ok content := by
    simp [FileSystem.readText, hnetstat, hcontent, bind, Except.bind]
  refine bind_eq_error_iff_firstFault (fun error ↦ ?_) fun table htable ↦ ?_
  · simp [Stage.Fails, hread]
  exact iff_of_false (by simp) not_firstFault_nil

/-- An inspection succeeds when it gets through all of its stages. -/
theorem inspect_eq_ok_iff {found : Findings} :
    (inspect files paths).outcome = .ok found ↔
      ∃ summary record content table, files.readText paths.sockstat = .ok summary ∧
        Sockstat.read summary = .ok record ∧ files.readText paths.netstat = .ok content ∧
        (Table.read content).table = .ok table ∧
        found = ⟨Sockstat.fieldCount - record.missing, table.length⟩ := by
  rw [outcome_inspect_eq_stages]
  simp only [bind_eq_ok_iff, mapError_eq_ok_iff, pure_eq_ok, Except.ok.injEq, FileSystem.readText]
  constructor
  · rintro ⟨summaryVersion, hsockstat, tableVersion, hnetstat, summary, hsummary, record, hrecord,
      content, hcontent, table, htable, rfl⟩
    exact ⟨summary, record, content, table, ⟨summaryVersion, hsockstat, hsummary⟩, hrecord,
      ⟨tableVersion, hnetstat, hcontent⟩, htable, rfl⟩
  · rintro ⟨summary, record, content, table, ⟨summaryVersion, hsockstat, hsummary⟩, hrecord,
      ⟨tableVersion, hnetstat, hcontent⟩, htable, rfl⟩
    exact ⟨summaryVersion, hsockstat, tableVersion, hnetstat, summary, hsummary, record, hrecord,
      content, hcontent, table, htable, rfl⟩

/-! ### Open sources -/

theorem openSources_eq_ok_iff {sources : Sources} :
    openSources files paths = .ok sources ↔
      files.openAt paths.sockstat = .ok sources.sockstat ∧
        files.openAt paths.netstat = .ok sources.netstat := by
  obtain ⟨sockstat, netstat⟩ := sources
  unfold openSources
  simp only [bind_eq_ok_iff, mapError_eq_ok_iff, pure_eq_ok, Except.ok.injEq, Sources.mk.injEq]
  constructor
  · rintro ⟨_, hsockstat, _, hnetstat, rfl, rfl⟩
    exact ⟨hsockstat, hnetstat⟩
  · rintro ⟨hsockstat, hnetstat⟩
    exact ⟨_, hsockstat, _, hnetstat, rfl, rfl⟩

/-- Each of the two sources can be opened. -/
def CanOpen (files : FileSystem) (paths : SourcePaths) : Prop :=
  (∃ source, files.openAt paths.sockstat = .ok source) ∧
    ∃ source, files.openAt paths.netstat = .ok source

theorem exists_openSources_iff :
    (∃ sources, openSources files paths = .ok sources) ↔ CanOpen files paths := by
  simp only [openSources_eq_ok_iff]
  constructor
  · rintro ⟨sources, hsockstat, hnetstat⟩
    exact ⟨⟨_, hsockstat⟩, _, hnetstat⟩
  · rintro ⟨⟨sockstat, hsockstat⟩, netstat, hnetstat⟩
    exact ⟨⟨sockstat, netstat⟩, hsockstat, hnetstat⟩

/-- An open source shows the text at its path. -/
theorem nextContent_of_openAt {path : RawText} {source : Source}
    (hopen : files.openAt path = .ok source) :
    Pass.nextContent source = files.readText path := by
  unfold FileSystem.openAt at hopen
  unfold FileSystem.readText
  rcases hopened : files.versionAt path with fault | version
  · rw [hopened] at hopen
    cases hopen
  · rw [hopened] at hopen
    cases hopen
    rfl

/-- Sources that can be read can be opened. -/
theorem exists_openSources_of_readText {summary content : Text}
    (hsummary : files.readText paths.sockstat = .ok summary)
    (hcontent : files.readText paths.netstat = .ok content) :
    ∃ sources, openSources files paths = .ok sources := by
  obtain ⟨summaryVersion, hsockstat, -⟩ := bind_eq_ok_iff.mp hsummary
  obtain ⟨tableVersion, hnetstat, -⟩ := bind_eq_ok_iff.mp hcontent
  refine ⟨⟨.constant summaryVersion, .constant tableVersion⟩, ?_⟩
  simp [openSources_eq_ok_iff, FileSystem.openAt, hsockstat, hnetstat, Except.map]

/-! ### Passes over sound sources -/

/-- The summary of a pass is sound when it is read and understood. -/
theorem ok_sockstatPart_iff {timestamp : Int} {pageSize : UInt64} {source : Except Fault Text} :
    (Pass.sockstatPart timestamp pageSize source).ok = true ↔
      ∃ content record, source = .ok content ∧ Sockstat.read content = .ok record := by
  constructor
  · intro hok
    obtain ⟨-, content, record, hsource, hread, -⟩ :=
      (Pass.summaryAllOrNothing timestamp pageSize source).of_ok hok
    exact ⟨content, record, hsource, hread⟩
  · rintro ⟨content, record, rfl, hread⟩
    simp [Pass.sockstatPart, hread]

/-- The table of a pass is sound when it is read and understood. -/
theorem ok_netstatPart_iff {timestamp : Int} {source : Except Fault Text} :
    (Pass.netstatPart timestamp source).ok = true ↔
      ∃ content table, source = .ok content ∧ (Table.read content).table = .ok table := by
  constructor
  · intro hok
    obtain ⟨content, table, hsource, hread, -⟩ :=
      (Pass.tableAllOrNothing timestamp source).of_ok hok
    exact ⟨content, table, hsource, hread⟩
  · rintro ⟨content, table, rfl, hread⟩
    simp [Pass.netstatPart, hread]

/-- A pass over open sources finds both of them sound when their texts can be read and
understood. -/
theorem finds_sound_iff {sources : Sources} (hopen : openSources files paths = .ok sources)
    {streams : Streams} (hstreams : streams.NeverFail) (timestamp : Int) (pageSize : UInt64) :
    (∃ report, (Pass.run sources streams timestamp pageSize).outcome = .ok report ∧
        report.sockstatOk = true ∧ report.netstatOk = true) ↔
      (∃ summary record, files.readText paths.sockstat = .ok summary ∧
        Sockstat.read summary = .ok record) ∧
      ∃ content table, files.readText paths.netstat = .ok content ∧
        (Table.read content).table = .ok table := by
  obtain ⟨hsockstat, hnetstat⟩ := openSources_eq_ok_iff.mp hopen
  rw [Pass.run_eq_of_neverFail sources timestamp pageSize hstreams,
    ← nextContent_of_openAt hsockstat, ← nextContent_of_openAt hnetstat, ← ok_sockstatPart_iff,
    ← ok_netstatPart_iff]
  constructor
  · rintro ⟨report, hreport, hsound⟩
    cases hreport
    exact hsound
  · intro hsound
    exact ⟨_, rfl, hsound⟩

/-- What a pass writes about sound sources. -/
theorem written_of_sound {sources : Sources} (hopen : openSources files paths = .ok sources)
    {streams : Streams} (hstreams : streams.NeverFail) (timestamp : Int) (pageSize : UInt64)
    {summary content : Text} {record : Sockstat.Record} {table : Table}
    (hsummary : files.readText paths.sockstat = .ok summary)
    (hrecord : Sockstat.read summary = .ok record)
    (hcontent : files.readText paths.netstat = .ok content)
    (htable : (Table.read content).table = .ok table) :
    (Pass.run sources streams timestamp pageSize).streams.out.written =
      streams.out.written ++ linesText
        ((Sockstat.samples timestamp record pageSize ++ table.samples timestamp).map
          Sample.line) := by
  obtain ⟨hsockstat, hnetstat⟩ := openSources_eq_ok_iff.mp hopen
  rw [← nextContent_of_openAt hsockstat] at hsummary
  rw [← nextContent_of_openAt hnetstat] at hcontent
  rw [Pass.written_of_neverFail sources timestamp pageSize hstreams, Pass.allEntries, hsummary,
    hcontent]
  simp only [Pass.sockstatPart, Pass.netstatPart, hrecord, htable, metricLines_map_metric,
    metricLines_append, metricLines_map_diagnostic, List.nil_append, List.map_append,
    metricLines_eq_map_line (table.entries timestamp)]
  rfl

/-! ### Counting the lines of the summary -/

/-- The line is about a metric of the summary: the name in front of its first space begins with
`net.sockstat.`. -/
def isAboutSummary (line : Text) : Bool :=
  (Sample.parts? line).any fun parts ↦ "net.sockstat.".toList.isPrefixOf parts.name

/-- The line of a sample is about the summary if its name says so. -/
theorem isAboutSummary_line {sample : Sample} (hclean : sample.IsClean) :
    isAboutSummary sample.line = "net.sockstat.".toList.isPrefixOf sample.name := by
  rw [isAboutSummary, hclean.parts?_line, Option.any_some]

theorem isAboutSummary_of_mem_sockstat {timestamp : Int} {record : Sockstat.Record}
    {pageSize : UInt64} {sample : Sample}
    (hsample : sample ∈ Sockstat.samples timestamp record pageSize) :
    isAboutSummary sample.line = true := by
  rw [isAboutSummary_line (Sockstat.isClean_of_mem_samples hsample), Sample.name,
    (Sockstat.mem_labels_of_mem_samples hsample).1]
  rfl

theorem not_isAboutSummary_of_mem_netstat {timestamp : Int} {table : Table} {sample : Sample}
    (hsample : sample ∈ table.samples timestamp) : isAboutSummary sample.line = false := by
  obtain ⟨of, label, hseries⟩ := Table.exists_series_eq hsample
  have hname : sample.name = sectionGroup of.name ++ '.' :: label.1 := congrArg Prod.fst hseries
  rw [isAboutSummary_line (Netstat.isClean_of_mem_samples hsample), hname]
  rfl

/-- Of the lines of both sources, those about the summary are as many as the summary has fields. -/
theorem countP_isAboutSummary (timestamp : Int) (record : Sockstat.Record) (pageSize : UInt64)
    (table : Table) :
    (linesText ((Sockstat.samples timestamp record pageSize ++ table.samples timestamp).map
      Sample.line)).lines.countP isAboutSummary = Sockstat.fieldCount - record.missing := by
  have hlines : ∀ line ∈ (Sockstat.samples timestamp record pageSize ++
      table.samples timestamp).map Sample.line, '\n' ∉ line := by
    intro line hline
    obtain ⟨sample, hsample, rfl⟩ := List.mem_map.mp hline
    rcases List.mem_append.mp hsample with hsummary | htable
    · exact (Sockstat.isClean_of_mem_samples hsummary).lineFeed_not_mem_line
    · exact (Netstat.isClean_of_mem_samples htable).lineFeed_not_mem_line
  have hsummary : ((Sockstat.samples timestamp record pageSize).map Sample.line).countP
      isAboutSummary = (Sockstat.samples timestamp record pageSize).length := by
    rw [List.countP_map, List.countP_eq_length]
    exact fun sample hsample ↦ isAboutSummary_of_mem_sockstat hsample
  have htable : ((table.samples timestamp).map Sample.line).countP isAboutSummary = 0 := by
    rw [List.countP_map, List.countP_eq_zero]
    intro sample hsample habout
    rw [Function.comp_apply, not_isAboutSummary_of_mem_netstat hsample] at habout
    cases habout
  have hcount := (Sockstat.length_samples timestamp record pageSize).2
  rw [← List.append_nil (linesText _), Text.lines_linesText_append hlines List.not_mem_nil,
    List.countP_append, List.map_append, List.countP_append, hsummary, htable]
  unfold Sockstat.fieldCount
  change _ + 0 + 0 = _
  omega

/-! ### Counting the sections of the table -/

/-- The sections that the headers of a content announce, one for each line under a known header. -/
def announced (content : Text) : List Netstat.Section :=
  content.lines.filterMap fun line ↦ line.words.head?.bind Section.ofHeader?

/-- A table has as many sections as its content announces different ones. -/
theorem length_eq_card_announced {content : Text} {table : Table}
    (htable : (Table.read content).table = .ok table) :
    table.length = (announced content).toFinset.card := by
  have hannounced : announced content = content.lines.filterMap fun line ↦
      (row? line).map Prod.fst := by
    unfold announced row?
    congr 1
    funext line
    rcases line.words with - | ⟨header, cells⟩
    · rfl
    · simp [Function.comp_def]
  have hsame : (announced content).toFinset = (sectionsOf content.lines).toFinset := by
    ext of
    rw [hannounced, List.mem_toFinset, List.mem_toFinset, sectionsOf, List.mem_eraseDups]
  rw [hsame, List.toFinset_card_of_nodup (nodup_sectionsOf _), ← map_of_eq_sectionsOf htable,
    List.length_map]

/-! ### The prediction -/

/-- What an inspection of the sources tells about a pass over them. -/
structure PredictsPass (files : FileSystem) (paths : SourcePaths) (streams : Streams)
    (timestamp : Int) (pageSize : UInt64) : Prop where
  /-- It succeeds when the sources can be opened and the pass finds both of them sound. -/
  succeeds_iff : (∃ found, (inspect files paths).outcome = .ok found) ↔
    ∃ sources report, openSources files paths = .ok sources ∧
      (Pass.run sources streams timestamp pageSize).outcome = .ok report ∧
      report.sockstatOk = true ∧ report.netstatOk = true
  /-- It counts the lines about the summary and the sections of the table. -/
  counts : ∀ {found : Findings}, (inspect files paths).outcome = .ok found →
    ∃ sources text content, openSources files paths = .ok sources ∧
      (Pass.run sources streams timestamp pageSize).streams.out.written =
        streams.out.written ++ text ∧
      found.fields = text.lines.countP isAboutSummary ∧
      files.readText paths.netstat = .ok content ∧
      found.sections = (announced content).toFinset.card
  /-- It fails with the error of the first stage that fails. -/
  fails_iff : ∀ {error : SourceError}, (inspect files paths).outcome = .error error ↔
    FirstFault (Stage.Fails files paths) Stage.all error

/-- An inspection tells whether a pass over the same sources will find them sound, how many lines
the pass will write about the summary and how many sections the table has, and otherwise which of
its stages is the first to fail. -/
theorem predicts_pass (files : FileSystem) (paths : SourcePaths) {streams : Streams}
    (hstreams : streams.NeverFail) (timestamp : Int) (pageSize : UInt64) :
    PredictsPass files paths streams timestamp pageSize where
  succeeds_iff := by
    simp only [inspect_eq_ok_iff]
    constructor
    · rintro ⟨-, summary, record, content, table, hsummary, hrecord, hcontent, htable, -⟩
      obtain ⟨sources, hopen⟩ := exists_openSources_of_readText hsummary hcontent
      obtain ⟨report, hreport⟩ := (finds_sound_iff hopen hstreams timestamp pageSize).mpr
        ⟨⟨summary, record, hsummary, hrecord⟩, content, table, hcontent, htable⟩
      exact ⟨sources, report, hopen, hreport⟩
    · rintro ⟨sources, report, hopen, hreport⟩
      obtain ⟨⟨summary, record, hsummary, hrecord⟩, content, table, hcontent, htable⟩ :=
        (finds_sound_iff hopen hstreams timestamp pageSize).mp ⟨report, hreport⟩
      exact ⟨_, summary, record, content, table, hsummary, hrecord, hcontent, htable, rfl⟩
  counts := by
    intro found hfound
    obtain ⟨summary, record, content, table, hsummary, hrecord, hcontent, htable, rfl⟩ :=
      inspect_eq_ok_iff.mp hfound
    obtain ⟨sources, hopen⟩ := exists_openSources_of_readText hsummary hcontent
    exact ⟨sources, _, content, hopen,
      written_of_sound hopen hstreams timestamp pageSize hsummary hrecord hcontent htable,
      (countP_isAboutSummary ..).symm, hcontent, length_eq_card_announced htable⟩
  fails_iff := inspect_eq_error_iff

/-- A summary without its optional parts has nine fields and gives nine lines, although the table
that stands beside it has lines of its own in two sections, one of them under two headers. -/
theorem predicts_nine_lines :
    let paths : SourcePaths := ⟨.ofText "sockstat".toList, .ofText "netstat".toList⟩
    let files : FileSystem := .ofObservations [
      (paths.sockstat, .ok (.file (Text.toUtf8 ("sockets: used 9\n" ++
        "TCP: inuse 5 orphan 0 tw 1 alloc 7 mem 2\nUDP: inuse 3\nRAW: inuse 0\n" ++
        "FRAG: inuse 0 memory 0\n").toList))),
      (paths.netstat, .ok (.file (Text.toUtf8
        "TcpExt: OutRsts\nMystery: 1\nUdp: InErrs\nTcp: 5\nUdp: 4\n".toList)))]
    Streams.unbounded.NeverFail ∧ (inspect files paths).outcome = .ok ⟨9, 2⟩ ∧
      ∃ sources report, openSources files paths = .ok sources ∧
        (Pass.run sources .unbounded 7 4096).outcome = .ok report ∧
        report.sockstatOk = true ∧ report.netstatOk = true := by
  intro paths files
  have hstreams : Streams.unbounded.NeverFail := ⟨⟨rfl, rfl⟩, ⟨rfl, rfl⟩⟩
  have hfound : (inspect files paths).outcome = .ok ⟨9, 2⟩ := by decide +kernel
  exact ⟨hstreams, hfound,
    (predicts_pass files paths hstreams 7 4096).succeeds_iff.mp ⟨_, hfound⟩⟩

end SocketMetrics.Startup
