import SocketMetrics.Proofs.Program.Exit
/-!
# Exit codes when nothing can be written

What a process does whose standard output has no room for a single byte. Metric lines go through a
buffer: a single pass fails if it has any to write (`code_once_full`), and a process that collects
until its parent is gone exits with 1 either way. Lines that are printed one by one abort their
process instead (`code_speak_full`). `documented_iff_not_printsLines` draws the border: a process
that gets to print such a line aborts, and every other one exits as documented.
-/

set_option autoImplicit false
set_option relaxedAutoImplicit false

namespace SocketMetrics

open Channel CommandLine Config Files Startup

/-! ### Collecting -/

/-- Streams of which the output stream has no room. -/
def Channel.Streams.fullOut : Streams :=
  ⟨.fullDevice, .unbounded⟩

/-- A pass that succeeds although its output has no room has nothing to write there. -/
theorem Pass.metricLines_of_fullOut {sources : Sources} {timestamp : Int} {pageSize : UInt64}
    {report : Report} (hok : (run sources .fullOut timestamp pageSize).outcome = .ok report) :
    metricLines (allEntries sources timestamp pageSize) = [] := by
  by_contra hlines
  obtain ⟨hdeliver, -⟩ := run_of_ok hok
  let delivered := (Emitter.start .fullOut timestamp).deliveredAll
    (allEntries sources timestamp pageSize)
  have hpending : delivered.streams.out.pending ≠ [] := by
    obtain ⟨line, others, hcons⟩ := List.exists_cons_of_ne_nil hlines
    simp [delivered, Emitter.deliveredAll, Emitter.start, Sink.append, hcons]
  -- what is pending cannot be passed on
  have hobstacle : delivered.streams.out.flushObstacle? = some .noSpace := by
    have hsome : delivered.streams.out.pending.isEmpty = false := by simpa using hpending
    simp only [Sink.flushObstacle?]
    exact if_neg (by simp [hsome])
  rw [run_of_delivered hdeliver, Emitter.flush_of_out_fails hobstacle] at hok
  cases hok

namespace Program

section Work

variable {surroundings : Surroundings} {config : Config}

/-- A single pass over an output that works writes its metric lines. -/
theorem stdout_once (hstdout : surroundings.stdout = .working) {collector : Collector}
    (hcollector : (Collector.openAt surroundings.files config.effectivePaths
      config.effectiveInterval config.effectivePageSize).outcome = .ok collector) :
    (once surroundings config).stdout = linesText (metricLines (Pass.allEntries collector.sources
      (surroundings.clock collector.passes) collector.pageSize)) := by
  have hnever := neverFail_streams hstdout
  have hwritten := Pass.written_of_neverFail collector.sources
    (surroundings.clock collector.passes) collector.pageSize hnever
  obtain ⟨-, report, hreport⟩ := collector.runOnce_of_neverFail surroundings.clock hnever
  have hempty : surroundings.streams.out.written = [] := by
    rw [Surroundings.streams, hstdout]
    rfl
  rw [hempty, List.nil_append] at hwritten
  unfold once withCollector
  simp only [hcollector, hreport, hstdout]
  exact hwritten

/-- A single pass over an output that has no room exits with 1, or with 0 when it has nothing to
write. -/
theorem code_once_full (hstdout : surroundings.stdout = .full)
    (hopen : CanOpen surroundings.files config.effectivePaths) :
    (once surroundings config).code = 1 ∨ (once surroundings config).code = 0 ∧
      (once { surroundings with stdout := .working } config).stdout = [] := by
  obtain ⟨collector, hcollector⟩ := Collector.openAt_of_canOpen hopen config.effectiveInterval
    config.effectivePageSize
  have hstreams : surroundings.streams = .fullOut := by
    rw [Surroundings.streams, hstdout]
    rfl
  have hworking : (once { surroundings with stdout := .working } config).stdout = linesText
      (metricLines (Pass.allEntries collector.sources (surroundings.clock collector.passes)
        collector.pageSize)) := stdout_once rfl hcollector
  rw [hworking]
  unfold once withCollector
  simp only [hcollector, hstreams]
  rcases houtcome : (collector.runOnce surroundings.clock .fullOut).outcome with fault | report
  · exact Or.inl rfl
  · refine Or.inr ⟨rfl, ?_⟩
    rw [Pass.metricLines_of_fullOut houtcome]
    rfl

section Asked

variable {arguments : Arguments} {resolved : Resolved}

/-- Work without a command is collecting. -/
theorem work_of_none (hcommand : arguments.command = none) :
    (work surroundings arguments resolved).code = (collect surroundings resolved.config).code ∧
      (work surroundings arguments resolved).stdout =
        (collect surroundings resolved.config).stdout := by
  rw [work, hcommand]
  exact ⟨rfl, rfl⟩

theorem work_of_once (hcommand : arguments.command = some .once) :
    (work surroundings arguments resolved).code = (once surroundings resolved.config).code ∧
      (work surroundings arguments resolved).stdout =
        (once surroundings resolved.config).stdout := by
  rw [work, hcommand]
  exact ⟨rfl, rfl⟩

/-- Work that has to open its sources and cannot exits at once. -/
theorem work_of_not_canOpen (hcommand : arguments.command ≠ some .check)
    (hclosed : ¬ CanOpen surroundings.files resolved.config.effectivePaths) :
    (work surroundings arguments resolved).code = 13 ∧
      (work surroundings arguments resolved).stdout = [] := by
  cases hasked : arguments.command with
  | none =>
    rw [(work_of_none hasked).1, (work_of_none hasked).2]
    exact withCollector_of_not_canOpen hclosed _
  | some command =>
    cases command with
    | check => exact absurd hasked hcommand
    | once =>
      rw [(work_of_once hasked).1, (work_of_once hasked).2]
      exact withCollector_of_not_canOpen hclosed _

end Asked

end Work

/-! ### Lines that are printed one by one -/

/-- A standard output that has no room aborts the process at the first line for it. -/
theorem code_speak_full (code : Nat) (said : List Said) :
    (speak .full code said).code = if outLines said = [] then code else 101 := by
  induction said with
  | nil => rfl
  | cons line rest ih =>
    cases line with
    | out line => rfl
    | err line => exact ih

section Perform

variable {invocation : Invocation} {arguments : Arguments} {resolved : Resolved}

/-- The process gets to print a line: the configuration, that it is valid, or what is found in the
sources. -/
inductive PrintsLines (invocation : Invocation) (arguments : Arguments) : Prop where
  | shown {resolved : Resolved} (hok : resolution invocation arguments = .ok resolved)
      (hshow : arguments.showConfig = true) (hcheck : arguments.checkConfig = false)
      (hpaths : arguments.overrides.HasTextPaths) : PrintsLines invocation arguments
  | approved {resolved : Resolved} (hok : resolution invocation arguments = .ok resolved)
      (hcheck : arguments.checkConfig = true) (hvalid : resolved.config.fault? = none) :
      PrintsLines invocation arguments
  | inspected {resolved : Resolved} (hok : resolution invocation arguments = .ok resolved)
      (hwork : ¬ Presents arguments) (hvalid : resolved.config.fault? = none)
      (hcommand : arguments.command = some .check) : PrintsLines invocation arguments

/-- The report on the sources has a heading. -/
theorem outLines_check_ne_nil (files : Files.FileSystem) (config : Config) :
    outLines (check files config).said ≠ [] := by
  unfold check checkHeading
  rcases houtcome : (inspect files config.effectivePaths).outcome with error | found <;>
    simp [houtcome, outLines]

/-- A process that gets to print a line aborts. -/
theorem code_of_printsLines (hstdout : invocation.stdout = .full)
    (hprints : PrintsLines invocation arguments) : (perform invocation arguments).code = 101 := by
  cases hprints with
  | @shown resolved hok hshow hcheck hpaths =>
    obtain ⟨text, hshown⟩ := Option.isSome_iff_exists.mp
      ((isSome_shownConfig?_iff hok arguments.format).mpr hpaths)
    rw [perform_of_presents (Or.inl hshow) hok, present, hcheck, hshown, hstdout]
    simp only [Bool.false_eq_true, if_false]
    rw [code_speak_full, outLines_notices]
    rfl
  | approved hok hcheck hvalid =>
    rw [perform_of_presents (Or.inr hcheck) hok, present, if_pos hcheck, hvalid, hstdout]
    simp only
    rw [code_speak_full, outLines_notices]
    rfl
  | @inspected resolved hok hwork hvalid hcommand =>
    have hsaid := code_speak_full (check invocation.files resolved.config).code
      (check invocation.files resolved.config).said
    rw [if_neg (outLines_check_ne_nil _ _)] at hsaid
    have haborted : ((check invocation.files resolved.config).outcome .full).code = aborted := hsaid
    rw [perform_of_valid hwork hok hvalid, work, hcommand, hstdout]
    simp only [if_pos haborted]
    exact haborted

/-! ### The documented exits -/

/-- The process exits as documented: with 13 only if a source cannot be opened, with 1 for any
failure, which includes output that cannot be written, and with 0 only if nothing has to be written.
-/
structure ExitsAsDocumented (invocation : Invocation) (arguments : Arguments) : Prop where
  code_mem : (perform invocation arguments).code ∈ [0, 1, 13]
  closed : (perform invocation arguments).code = 13 →
    ∃ resolved, resolution invocation arguments = .ok resolved ∧
      ¬ CanOpen invocation.files resolved.config.effectivePaths
  unresolved : ∀ {error : LoadError}, resolution invocation arguments = .error error →
    (perform invocation arguments).code = 1
  /-- A configuration that is not valid may only be shown. -/
  invalid : ∀ {resolved : Resolved}, resolution invocation arguments = .ok resolved →
    resolved.config.fault? ≠ none → (Presents arguments → arguments.checkConfig = true) →
      (perform invocation arguments).code = 1
  /-- There is something to write if an output that works receives something. -/
  unwritten : (perform { invocation with stdout := .working } arguments).stdout ≠ [] →
    (perform invocation arguments).code = 1
  idle : (perform invocation arguments).code = 0 →
    (perform { invocation with stdout := .working } arguments).stdout = []

theorem exitsAsDocumented_of_failure (hcode : (perform invocation arguments).code = 1) :
    ExitsAsDocumented invocation arguments where
  code_mem := by simp [hcode]
  closed hclosed := by
    rw [hcode] at hclosed
    cases hclosed
  unresolved _ := hcode
  invalid _ _ _ := hcode
  unwritten _ := hcode
  idle hidle := by
    rw [hcode] at hidle
    cases hidle

/-- A process with a valid configuration exits as documented if it has nothing to write and exits
with 0, or with 13 because a source cannot be opened. -/
theorem exitsAsDocumented_of_idle (hok : resolution invocation arguments = .ok resolved)
    (hvalid : resolved.config.fault? = none)
    (hstdout : (perform { invocation with stdout := .working } arguments).stdout = [])
    (hcode : (perform invocation arguments).code = 0 ∨ (perform invocation arguments).code = 13 ∧
      ¬ CanOpen invocation.files resolved.config.effectivePaths) :
    ExitsAsDocumented invocation arguments where
  code_mem := by rcases hcode with hzero | ⟨hthirteen, -⟩ <;> simp [*]
  closed hclosed := by
    rcases hcode with hzero | ⟨-, hopen⟩
    · rw [hclosed] at hzero
      cases hzero
    · exact ⟨resolved, hok, hopen⟩
  unresolved herror := by
    rw [hok] at herror
    cases herror
  invalid hother hfault _ := by
    rw [hok] at hother
    cases hother
    exact absurd hvalid hfault
  unwritten hsome := absurd hstdout hsome
  idle _ := hstdout

/-- A process that works and does not report on its sources exits as documented. -/
theorem exitsAsDocumented_of_work (hstdout : invocation.stdout = .full)
    (hok : resolution invocation arguments = .ok resolved) (hwork : ¬ Presents arguments)
    (hvalid : resolved.config.fault? = none) (hcommand : arguments.command ≠ some .check) :
    ExitsAsDocumented invocation arguments := by
  have hperform := perform_of_valid hwork hok hvalid
  let working : Surroundings := { invocation.toSurroundings with stdout := .working }
  have hworking : perform { invocation with stdout := .working } arguments =
      work working arguments resolved := perform_of_valid hwork hok hvalid
  by_cases hopen : CanOpen invocation.files resolved.config.effectivePaths
  · cases hasked : arguments.command with
    | none =>
      refine exitsAsDocumented_of_failure ?_
      rw [hperform, (work_of_none hasked).1]
      exact code_collect hopen
    | some command =>
      cases command with
      | check => exact absurd hasked hcommand
      | once =>
        have hsurroundings : invocation.toSurroundings.stdout = .full := hstdout
        rcases code_once_full hsurroundings hopen with hfailed | ⟨hdone, hnothing⟩
        · refine exitsAsDocumented_of_failure ?_
          rw [hperform, (work_of_once hasked).1]
          exact hfailed
        · refine exitsAsDocumented_of_idle hok hvalid ?_ (Or.inl ?_)
          · rw [hworking, (work_of_once hasked).2]
            exact hnothing
          · rw [hperform, (work_of_once hasked).1]
            exact hdone
  · refine exitsAsDocumented_of_idle hok hvalid ?_ (Or.inr ⟨?_, hopen⟩)
    · have hclosed : ¬ CanOpen working.files resolved.config.effectivePaths := hopen
      rw [hworking]
      exact (work_of_not_canOpen hcommand hclosed).2
    · rw [hperform]
      exact (work_of_not_canOpen hcommand hopen).1

/-- A configuration that is to be shown and does not get printed cannot be written. -/
theorem code_of_shown_of_not_printsLines (hok : resolution invocation arguments = .ok resolved)
    (hpresents : Presents arguments) (hcheck : arguments.checkConfig = false)
    (hprints : ¬ PrintsLines invocation arguments) : (perform invocation arguments).code = 1 := by
  have hshow : arguments.showConfig = true := by simpa [Presents, hcheck] using hpresents
  have hpaths : ¬ arguments.overrides.HasTextPaths := fun hpaths ↦
    hprints (.shown hok hshow hcheck hpaths)
  rw [← isSome_shownConfig?_iff hok arguments.format, Option.not_isSome_iff_eq_none] at hpaths
  exact (perform_of_not_shown hshow hcheck hok hpaths).1

/-- A process that does not get to print a line exits as documented. -/
theorem exitsAsDocumented_of_not_printsLines (hstdout : invocation.stdout = .full)
    (hprints : ¬ PrintsLines invocation arguments) : ExitsAsDocumented invocation arguments := by
  rcases hok : resolution invocation arguments with error | resolved
  · refine exitsAsDocumented_of_failure ?_
    rw [perform_of_error hok]
    rfl
  rcases hfault : resolved.config.fault? with - | invalid
  · by_cases hpresents : Presents arguments
    · cases hcheck : arguments.checkConfig with
      | true => exact absurd (.approved hok hcheck hfault) hprints
      | false =>
        exact exitsAsDocumented_of_failure
          (code_of_shown_of_not_printsLines hok hpresents hcheck hprints)
    · exact exitsAsDocumented_of_work hstdout hok hpresents hfault fun hcommand ↦
        hprints (.inspected hok hpresents hfault hcommand)
  · refine exitsAsDocumented_of_failure ?_
    by_cases hpresents : Presents arguments
    · cases hcheck : arguments.checkConfig with
      | true =>
        rw [perform_of_presents hpresents hok, present, if_pos hcheck, hfault, hstdout]
        simp only
        rw [code_speak_full, outLines_notices]
        rfl
      | false => exact code_of_shown_of_not_printsLines hok hpresents hcheck hprints
    · rw [perform_of_fault hpresents hok hfault]
      rfl

end Perform

/-- Over an output that has no room, exactly those processes exit as documented that do not get to
print a line; the others abort. -/
theorem documented_iff_not_printsLines {invocation : Invocation} {arguments : Arguments}
    (hstdout : invocation.stdout = .full) :
    (ExitsAsDocumented invocation arguments ↔ ¬ PrintsLines invocation arguments) ∧
      ((perform invocation arguments).code = 101 ↔ PrintsLines invocation arguments) := by
  have haborts : PrintsLines invocation arguments → (perform invocation arguments).code = 101 :=
    code_of_printsLines hstdout
  have hnever (hexits : ExitsAsDocumented invocation arguments) :
      (perform invocation arguments).code ≠ 101 := by
    intro hcode
    have hmem := hexits.code_mem
    rw [hcode] at hmem
    exact absurd hmem (by decide)
  refine ⟨⟨fun hexits hprints ↦ hnever hexits (haborts hprints),
    exitsAsDocumented_of_not_printsLines hstdout⟩, fun hcode ↦ ?_, haborts⟩
  by_contra hprints
  exact hnever (exitsAsDocumented_of_not_printsLines hstdout hprints) hcode

/-- Checking the standard configuration aborts when the verdict cannot be printed. -/
theorem checkConfig_aborts :
    let invocation : Invocation := ⟨⟨.ofObservations [], .full, fun _ ↦ 7, []⟩,
      [.ofText "--no-config".toList, .ofText "--check-config".toList], none⟩
    invocation.stdout = .full ∧ ∃ arguments,
      CommandLine.read invocation.words = .ok arguments ∧
        ¬ ExitsAsDocumented invocation arguments ∧
        (perform invocation arguments).code = 101 := by
  intro invocation
  let arguments : Arguments := { Arguments.empty with noConfig := true, checkConfig := true }
  have hread : CommandLine.read invocation.words = .ok arguments := by decide +kernel
  have hok : resolution invocation arguments = .ok ⟨standard, []⟩ := by decide +kernel
  have hvalid : standard.fault? = none := by decide +kernel
  have hprints : PrintsLines invocation arguments := .approved hok rfl hvalid
  obtain ⟨hdocumented, haborts⟩ := documented_iff_not_printsLines
    (show invocation.stdout = .full from rfl)
  exact ⟨rfl, arguments, hread, fun hexits ↦ hdocumented.mp hexits hprints, haborts.mpr hprints⟩

end Program

end SocketMetrics
