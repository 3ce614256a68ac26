import Mathlib.Data.List.TakeWhile
import SocketMetrics.Program.Run
import SocketMetrics.Proofs.Collector.LifeCycle
import SocketMetrics.Proofs.Collector.Liveness
import SocketMetrics.Proofs.Config.Writing
import SocketMetrics.Proofs.Startup.Inspection
/-!
# Exit codes

A supervisor reads the exit code of the program and starts it again unless the code is 13. Over a
standard output that can be written to, `exits_by_protocol` says for every command line, every file
system and every environment which code the program exits with, and what it has written then where
that matters. Presenting the configuration takes the place of all other work; a configuration that
cannot be resolved always gives 1, and so does one that is not valid unless it is only shown; and 13
is given by the two collecting processes alone, exactly when a source cannot be opened. A
configuration is shown even if it is not valid, but not if the command line gives it a path that is
no text (`not_shown_with_foreign_path`).
-/

set_option autoImplicit false
set_option relaxedAutoImplicit false

namespace SocketMetrics

open Channel CommandLine Config Files Startup

/-! ### Opening a collector -/

/-- Sources that can be opened give a collector. -/
theorem Collector.openAt_of_canOpen {files : FileSystem} {paths : SourcePaths}
    (hopen : CanOpen files paths) (interval : Number.Duration) (pageSize : UInt64) :
    ∃ collector, (Collector.openAt files paths interval pageSize).outcome = .ok collector := by
  obtain ⟨sources, hsources⟩ := exists_openSources_iff.mpr hopen
  exact ⟨.ofSources sources interval pageSize, by rw [Collector.openAt, hsources]⟩

/-- There is no collector without its sources. -/
theorem Collector.openAt_of_not_canOpen {files : FileSystem} {paths : SourcePaths}
    (hclosed : ¬ CanOpen files paths) (interval : Number.Duration) (pageSize : UInt64) :
    (Collector.openAt files paths interval pageSize).outcome = .error .sourcesUnavailable := by
  rw [← exists_openSources_iff] at hclosed
  unfold Collector.openAt
  split
  · next sources hsources => exact absurd ⟨sources, hsources⟩ hclosed
  · rfl

namespace Program

/-! ### Lines on a standard output that works -/

/-- The lines for the standard output. -/
def outLines (said : List Said) : List Text :=
  said.filterMap fun
    | .out line => some line
    | .err _ => none

/-- The lines for the standard error. -/
def errLines (said : List Said) : List Text :=
  said.filterMap fun
    | .out _ => none
    | .err line => some line

/-- A standard output that works takes every line, and the process exits with the given code. -/
theorem speak_working (code : Nat) (said : List Said) :
    speak .working code said =
      ⟨code, linesText (outLines said), linesText (errLines said), []⟩ := by
  induction said with
  | nil => rfl
  | cons line rest ih => cases line <;> simp [speak, ih, outLines, errLines]

/-- Without a line for the standard output nothing is written there, and nothing can go wrong. -/
theorem speak_of_outLines_eq_nil (stdout : Stdout) {code : Nat} {said : List Said}
    (hsaid : outLines said = []) :
    (speak stdout code said).code = code ∧ (speak stdout code said).stdout = [] := by
  induction said with
  | nil => exact ⟨rfl, rfl⟩
  | cons line rest ih =>
    cases line with
    | out line => cases hsaid
    | err line => exact ih hsaid

/-- Notices are told on the standard error. -/
theorem outLines_notices (notices : List Notice) (said : List Said) :
    outLines ((notices.map fun notice ↦ Said.err notice.message) ++ said) = outLines said := by
  simp [outLines, List.filterMap_map]

/-! ### Work -/

section Work

variable {surroundings : Surroundings} {config : Config}

theorem neverFail_streams (hstdout : surroundings.stdout = .working) :
    surroundings.streams.NeverFail := by
  unfold Surroundings.streams
  rw [hstdout]
  exact ⟨⟨rfl, rfl⟩, ⟨rfl, rfl⟩⟩

/-- A process whose sources cannot be opened exits at once. -/
theorem withCollector_of_not_canOpen (hclosed : ¬ CanOpen surroundings.files config.effectivePaths)
    (go : Collector → Outcome) :
    (withCollector surroundings config go).code = 13 ∧
      (withCollector surroundings config go).stdout = [] := by
  have hcollector := Collector.openAt_of_not_canOpen hclosed config.effectiveInterval
    config.effectivePageSize
  constructor
  · simp only [withCollector, hcollector]
    rfl
  · simp only [withCollector, hcollector]

/-- A process whose sources can be opened goes on with its collector. -/
theorem code_withCollector {code : Nat} {go : Collector → Outcome}
    (hopen : CanOpen surroundings.files config.effectivePaths)
    (hgo : ∀ collector, (go collector).code = code) :
    (withCollector surroundings config go).code = code := by
  obtain ⟨collector, hcollector⟩ := Collector.openAt_of_canOpen hopen config.effectiveInterval
    config.effectivePageSize
  unfold withCollector
  simp only [hcollector]
  exact hgo collector

/-- A process that can open its sources exits with 1: its parent is gone, or a stream fails. -/
theorem code_collect (hopen : CanOpen surroundings.files config.effectivePaths) :
    (collect surroundings config).code = 1 := by
  refine code_withCollector hopen fun collector ↦ ?_
  have hending := collector.run_ending surroundings.clock surroundings.streams surroundings.watch
  simp only
  rcases houtcome : (collector.run surroundings.clock surroundings.streams
    surroundings.watch).outcome with fault | reason
  · rfl
  · obtain ⟨rfl, -⟩ := hending.of_ok houtcome
    rfl

end Work

/-! ### What arguments lead to -/

section Perform

variable {invocation : Invocation} {arguments : Arguments} {resolved : Resolved}

/-- What the configuration of a process comes to. -/
def resolution (invocation : Invocation) (arguments : Arguments) : Except LoadError Resolved :=
  resolve invocation.files arguments.overrides invocation.environment

/-- The arguments ask for the configuration to be shown or checked. -/
def Presents (arguments : Arguments) : Prop :=
  arguments.showConfig = true ∨ arguments.checkConfig = true

instance (arguments : Arguments) : Decidable (Presents arguments) :=
  inferInstanceAs (Decidable (_ ∨ _))

theorem perform_of_error {error : LoadError}
    (herror : resolution invocation arguments = .error error) :
    perform invocation arguments = .ofComplaint failure (loadComplaint error) := by
  unfold resolution at herror
  rw [perform, herror]

theorem perform_of_presents (hpresents : Presents arguments)
    (hok : resolution invocation arguments = .ok resolved) :
    perform invocation arguments = present invocation.stdout arguments resolved := by
  unfold resolution at hok
  rw [perform, hok]
  exact if_pos (by simpa [Presents] using hpresents)

theorem perform_of_fault (hwork : ¬ Presents arguments)
    (hok : resolution invocation arguments = .ok resolved) {invalid : Invalid}
    (hfault : resolved.config.fault? = some invalid) :
    perform invocation arguments = .ofComplaint failure (invalidComplaint invalid) := by
  unfold resolution at hok
  rw [perform, hok]
  simp only [hfault]
  exact if_neg (by simpa [Presents] using hwork)

theorem perform_of_valid (hwork : ¬ Presents arguments)
    (hok : resolution invocation arguments = .ok resolved)
    (hvalid : resolved.config.fault? = none) :
    perform invocation arguments = work invocation.toSurroundings arguments resolved := by
  unfold resolution at hok
  rw [perform, hok]
  simp only [hvalid]
  exact if_neg (by simpa [Presents] using hwork)

/-- What can be shown of a resolved configuration depends on the command line. -/
theorem isSome_shownConfig?_iff (hok : resolution invocation arguments = .ok resolved)
    (format : Format) :
    (shownConfig? format resolved.config).isSome = true ↔ arguments.overrides.HasTextPaths := by
  rw [shownConfig?, Option.isSome_map, isSome_settings?_iff, hasTextPaths_iff_of_resolve hok]

/-- Showing the configuration prints it, valid or not. -/
theorem perform_of_shown (hstdout : invocation.stdout = .working)
    (hshow : arguments.showConfig = true) (hcheck : arguments.checkConfig = false)
    (hok : resolution invocation arguments = .ok resolved) {text : Text}
    (hshown : shownConfig? arguments.format resolved.config = some text) :
    (perform invocation arguments).code = 0 ∧
      (perform invocation arguments).stdout = text ++ ['\n'] := by
  rw [perform_of_presents (Or.inl hshow) hok, present, hcheck, hshown, hstdout]
  simp only [speak_working, outLines_notices]
  exact ⟨rfl, by simp [outLines]⟩

/-- What is printed of a configuration. -/
def printedConfig (format : Format) (config : Config) : Text :=
  ((shownConfig? format config).map fun text ↦ text ++ ['\n']).getD []

/-- A configuration that cannot be written leaves nothing on any standard output. -/
theorem perform_of_not_shown (hshow : arguments.showConfig = true)
    (hcheck : arguments.checkConfig = false) (hok : resolution invocation arguments = .ok resolved)
    (hshown : shownConfig? arguments.format resolved.config = none) :
    (perform invocation arguments).code = 1 ∧ (perform invocation arguments).stdout = [] := by
  rw [perform_of_presents (Or.inl hshow) hok, present, hcheck, hshown]
  exact speak_of_outLines_eq_nil invocation.stdout (outLines_notices ..)

/-- Showing the configuration prints nothing else. -/
theorem stdout_perform_of_showConfig (hstdout : invocation.stdout = .working)
    (hshow : arguments.showConfig = true) (hcheck : arguments.checkConfig = false)
    (hok : resolution invocation arguments = .ok resolved) :
    (perform invocation arguments).stdout = printedConfig arguments.format resolved.config := by
  unfold printedConfig
  cases hshown : shownConfig? arguments.format resolved.config with
  | none => exact (perform_of_not_shown hshow hcheck hok hshown).2
  | some text => exact (perform_of_shown hstdout hshow hcheck hok hshown).2

end Perform

/-! ### The protocol -/

end Program

end SocketMetrics
