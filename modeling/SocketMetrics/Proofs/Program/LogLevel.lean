import SocketMetrics.Proofs.Config.Precedence
import SocketMetrics.Proofs.Program.Exit
/-!
# The level of the log and the level that is shown

The threshold of the log is decided upon in two places: the configuration takes a level from its
file or from the standard values, and this level is what is shown; a process that works installs the
level of its command line if there is one. `installs_shown_level_iff` says what comes of it: the two
agree unless the command line names another level than the configuration, and such a level leaves no
trace in what is shown.
-/

set_option autoImplicit false
set_option relaxedAutoImplicit false

namespace SocketMetrics.Program

open CommandLine Config Files Log

/-- A configuration without a fault names a threshold if it names a level. -/
theorem exists_threshold_of_valid {config : Config} {name : Text}
    (hname : config.logLevel = some name) (hvalid : config.fault? = none) :
    ∃ shown, Threshold.ofNameInAnyCase? name = some shown := by
  cases hshown : Threshold.ofNameInAnyCase? name with
  | some shown => exact ⟨shown, rfl⟩
  | none =>
    -- of all faults this is the last
    simp [fault?, hname, hshown] at hvalid

/-- The log of a process works at a threshold: nothing else is shown than the threshold lets
through, and the threshold itself is told first if it lets this through. -/
structure LogsAt (installed : Threshold) (outcome : Outcome) : Prop where
  shows : ∀ record ∈ outcome.log, installed.shows record.level = true
  tells : installed.shows .info = true →
    outcome.log.head? = some ⟨.info, "Logging initialized with level: ".toList ++ installed.title⟩

theorem logsAt_shownBy (installed : Threshold) (notices : List Notice) (outcome : Outcome) :
    LogsAt installed ((outcome.after (openingRecords installed notices)).shownBy installed) where
  shows _ hrecord := (List.mem_filter.mp hrecord).2
  tells hinfo := by
    simp only [Outcome.shownBy, Outcome.after, openingRecords, List.cons_append]
    rw [List.filter_cons_of_pos (p := fun record : Record ↦ installed.shows record.level) hinfo]
    rfl

/-- The threshold of a process that works. -/
theorem logsAt_work (surroundings : Surroundings) (arguments : Arguments) (resolved : Resolved) :
    LogsAt (threshold arguments resolved.config) (work surroundings arguments resolved) :=
  logsAt_shownBy _ _ _

/-- What becomes of the level, where the configuration names the given one. -/
structure LevelChoice (invocation : Invocation) (arguments : Arguments) (resolved : Resolved)
    (name : Text) (shown : Threshold) : Prop where
  named : resolved.config.logLevel = some name
  means : Threshold.ofNameInAnyCase? name = some shown
  /-- The name is taken from the file that is selected, else from the standard values. -/
  taken : ∃ origin told, Selects invocation.files arguments.overrides origin ∧
    Says invocation.files origin told ∧ name = told.logLevel.getD "info".toList
  /-- The same configuration is shown in every format, whichever level the command line names. -/
  shows : ∀ level format,
    (perform { invocation with stdout := .working } { arguments with
      logLevel := level, showConfig := true, checkConfig := false,
      configFormat := some format }).stdout = printedConfig format resolved.config
  /-- The level of the command line is installed, else the shown one. -/
  installs : threshold arguments resolved.config = arguments.logLevel.getD shown
  logs : LogsAt (arguments.logLevel.getD shown)
    (perform invocation { arguments with showConfig := false, checkConfig := false })

/-- A configuration that is resolved and valid shows the level of its file or the standard one. This
is the level that is installed exactly if the command line names no other one. -/
theorem installs_shown_level_iff {invocation : Invocation} {arguments : Arguments}
    {resolved : Resolved} (hok : resolution invocation arguments = .ok resolved)
    (hvalid : resolved.config.fault? = none) :
    ∃ name shown, LevelChoice invocation arguments resolved name shown ∧
      (threshold arguments resolved.config = shown ↔
        ∀ told, arguments.logLevel = some told → told = shown) := by
  obtain ⟨origin, told, hselects, hsays, hresolved⟩ := resolve_eq_ok_iff.mp hok
  have htakes := (eq_resolved_iff.mp hresolved).1
  obtain ⟨shown, hshown⟩ := exists_threshold_of_valid htakes.logLevel hvalid
  have hinstalls : threshold arguments resolved.config = arguments.logLevel.getD shown := by
    rw [threshold, threshold?, htakes.logLevel, Option.bind_some, hshown]
    cases arguments.logLevel <;> rfl
  refine ⟨told.logLevel.getD "info".toList, shown, ?_, ?_⟩
  · constructor
    case named => exact htakes.logLevel
    case means => exact hshown
    case taken => exact ⟨origin, told, hselects, hsays, rfl⟩
    case shows =>
      intro level format
      let showing : Arguments := { arguments with
        logLevel := level, showConfig := true, checkConfig := false, configFormat := some format }
      have hshowing : resolution { invocation with stdout := .working } showing = .ok resolved :=
        hok
      exact stdout_perform_of_showConfig rfl rfl rfl hshowing
    case installs => exact hinstalls
    case logs =>
      let working : Arguments := { arguments with showConfig := false, checkConfig := false }
      have hworking : resolution invocation working = .ok resolved := hok
      have hwork : ¬ Presents working := by simp [Presents, working]
      rw [perform_of_valid hwork hworking hvalid, ← hinstalls]
      exact logsAt_work invocation.toSurroundings working resolved
  · rw [hinstalls]
    cases arguments.logLevel <;> simp

/-- The level of the command line is installed and another one is shown. -/
theorem installs_debug_and_shows_info :
    let invocation : Invocation := ⟨⟨.ofObservations [], .working, fun _ ↦ 7, []⟩,
      [.ofText "--no-config".toList, .ofText "--log-level".toList, .ofText "debug".toList], none⟩
    ∃ arguments resolved, CommandLine.read invocation.words = .ok arguments ∧
      resolution invocation arguments = .ok resolved ∧ resolved.config.fault? = none ∧
      resolved.config.logLevel = some "info".toList ∧
      threshold arguments resolved.config = .debug ∧
      LogsAt .debug (perform invocation arguments) := by
  intro invocation
  let arguments : Arguments := { Arguments.empty with logLevel := some .debug, noConfig := true }
  have hread : CommandLine.read invocation.words = .ok arguments := by decide +kernel
  have hok : resolution invocation arguments = .ok ⟨standard, []⟩ := by decide +kernel
  have hvalid : standard.fault? = none := by decide +kernel
  obtain ⟨name, shown, hchoice, -⟩ := installs_shown_level_iff hok hvalid
  exact ⟨arguments, ⟨standard, []⟩, hread, hok, hvalid, rfl, hchoice.installs, hchoice.logs⟩

end SocketMetrics.Program
