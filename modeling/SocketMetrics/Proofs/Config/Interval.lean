import SocketMetrics.Config.Validation
import SocketMetrics.Proofs.Collector.Laps
import SocketMetrics.Proofs.Number.Range
/-!
# The interval that a valid configuration sets

Validation asks for a positive number of seconds, and the interval is that number rounded to whole
nanoseconds, unless it is too long for a length of time. Neither end of the range is what validation
takes it for.

A positive number of at most half a nanosecond passes validation and is rounded to zero, so that the
collector never sleeps. `separates_passes_iff` says that this is the only way: a valid interval
above half a nanosecond is above zero and puts a slice of a sleep between any two passes.

A finite number from 2^64 on is valid too, and the standard interval takes its place without
a word. `rounds_seconds_iff` says that this is the only way: below 2^64 seconds the interval is the
nearest count of nanoseconds, and it is the standard one only if the number of seconds is rounded to
that.
-/

set_option autoImplicit false
set_option relaxedAutoImplicit false

namespace SocketMetrics.Config

open Number Channel Collector

variable {config : Config} {seconds : Binary64}

/-- A configuration is valid when its interval can be waited for and its other settings are
valid. -/
theorem fault?_eq_none_iff :
    config.fault? = none ↔
      (∀ seconds, config.interval = some seconds → isInterval seconds = true) ∧
        ({ config with interval := none } : Config).fault? = none := by
  unfold fault?
  cases config.interval with
  | none => simp
  | some seconds => by_cases hseconds : isInterval seconds = true <;> simp [hseconds]

/-- A configuration without a fault has an interval that can be waited for. -/
theorem isInterval_of_fault?_eq_none (hinterval : config.interval = some seconds)
    (hvalid : config.fault? = none) : isInterval seconds = true :=
  (fault?_eq_none_iff.mp hvalid).1 seconds hinterval

/-- What can be waited for are the finite positive numbers. -/
theorem isInterval_iff : isInterval seconds = true ↔ seconds.IsPositiveFinite :=
  Bool.and_eq_true_iff

theorem isFinite_of_isInterval (hseconds : isInterval seconds = true) :
    seconds.isFinite = true :=
  (isInterval_iff.mp hseconds).1

theorem isNegative_of_isInterval (hseconds : isInterval seconds = true) :
    seconds.isNegative = false :=
  (isInterval_iff.mp hseconds).isNegative_eq_false

/-- The interval is the nearest count of nanoseconds, or the standard one when there are too many
seconds. -/
theorem effectiveInterval_of_isInterval (hinterval : config.interval = some seconds)
    (hseconds : isInterval seconds = true) :
    config.effectiveInterval =
      if seconds.toRat < 2 ^ 64 then ⟨seconds.nearestNanoseconds⟩ else defaultInterval := by
  have hsign := isNegative_of_isInterval hseconds
  rw [effectiveInterval, hinterval, Option.bind_some,
    Duration.ofSeconds?_eq (isFinite_of_isInterval hseconds) hsign]
  simp only [nearestNanoseconds_div_lt_iff hsign]
  split <;> rfl

/-! ### The lower end of the range -/

/-- The interval of a valid configuration is above zero when its number of seconds is above half a
nanosecond. -/
theorem effectiveInterval_pos_iff (hinterval : config.interval = some seconds)
    (hvalid : config.fault? = none) :
    0 < config.effectiveInterval.nanoseconds ↔ halfNanosecond < seconds.toRat := by
  have hseconds := isInterval_of_fault?_eq_none hinterval hvalid
  rw [← not_le, ← not_le, not_iff_not,
    ← nearestNanoseconds_eq_zero_iff (isNegative_of_isInterval hseconds),
    effectiveInterval_of_isInterval hinterval hseconds, Nat.le_zero]
  split
  · rfl
  · next hmany =>
    refine iff_of_false (by decide) fun hzero ↦ hmany ?_
    rw [nearestNanoseconds_eq_zero_iff (isNegative_of_isInterval hseconds)] at hzero
    exact hzero.trans_lt (by norm_num [halfNanosecond, Duration.nanosPerSecond])

/-- The interval of a valid configuration is above zero exactly when its number of seconds is above
half a nanosecond. This is also exactly when every run with the interval puts a slice of a sleep
between any two passes. -/
theorem separates_passes_iff (hinterval : config.interval = some seconds)
    (hvalid : config.fault? = none) :
    (0 < config.effectiveInterval.nanoseconds ↔ halfNanosecond < seconds.toRat) ∧
      ((∀ (collector : Collector) (clock : Clock) (streams : Streams) (watch : Watch),
          collector.interval = config.effectiveInterval →
            SleepsBetweenPasses (run collector clock streams watch).actions) ↔
        halfNanosecond < seconds.toRat) := by
  have hpositive := effectiveInterval_pos_iff hinterval hvalid
  refine ⟨hpositive, ?_⟩
  rw [← hpositive]
  constructor
  · intro hall
    by_contra hzero
    have hnone : config.effectiveInterval.nanoseconds = 0 := Nat.eq_zero_of_not_pos hzero
    have hstreams : Streams.unbounded.NeverFail := ⟨⟨rfl, rfl⟩, ⟨rfl, rfl⟩⟩
    let collector : Collector :=
      .ofSources ⟨.constant .empty, .constant .empty⟩ config.effectiveInterval 4096
    have hsleeps := hall collector (fun _ ↦ 0) .unbounded (Watch.alive 2) rfl
    rw [actions_run, loop_actions_of_zero _ _ hnone hstreams] at hsleeps
    -- the second pass begins right behind the question that follows on the first
    obtain ⟨slice, -, hslice⟩ := hsleeps [.asked true] [.asked true] [.asked false] rfl
    have hmem : Action.slept slice ∈ [Action.asked true] := hslice.subset (by simp)
    simp at hmem
  · intro hsome collector clock streams watch hcollector
    rw [← hcollector] at hsome
    exact (run_laps collector clock streams watch).sleepsBetweenPasses hsome

/-- A tenth of a nanosecond is valid and leaves no time between passes. -/
theorem tenth_of_nanosecond_separates_no_passes :
    let seconds : Binary64 := ⟨0x3ddb7cdfd9d7bdbb⟩
    let config : Config := { empty with interval := some seconds }
    config.fault? = none ∧ config.effectiveInterval = ⟨0⟩ ∧ seconds.toRat ≤ halfNanosecond ∧
      ¬ ∀ (collector : Collector) (clock : Clock) (streams : Streams) (watch : Watch),
        collector.interval = config.effectiveInterval →
          SleepsBetweenPasses (run collector clock streams watch).actions := by
  intro seconds config
  have hvalid : config.fault? = none := by decide
  have hinterval : config.effectiveInterval = ⟨0⟩ := by decide +kernel
  obtain ⟨hpositive, hsleeps⟩ := separates_passes_iff (rfl : config.interval = some seconds) hvalid
  have hshort : ¬ halfNanosecond < seconds.toRat := by
    rw [← hpositive, hinterval]
    decide
  exact ⟨hvalid, hinterval, not_lt.mp hshort, mt hsleeps.mp hshort⟩

/-! ### The upper end of the range -/

/-- The standard interval is far from every number of seconds from 2^64 on. -/
theorem not_isNearest_defaultInterval (hlong : 2 ^ 64 ≤ seconds.toRat) :
    ¬ IsNearest defaultInterval.nanoseconds (seconds.toRat * Duration.nanosPerSecond) := by
  intro hnearest
  obtain ⟨-, habove⟩ := abs_le.mp hnearest.near
  have hdefault : (defaultInterval.nanoseconds : ℚ) = 30 * 1000000000 := by
    norm_num [defaultInterval, Duration.ofSeconds, Duration.nanosPerSecond]
  have hunit : (Duration.nanosPerSecond : ℚ) = 1000000000 := by norm_num [Duration.nanosPerSecond]
  rw [hdefault, hunit] at habove
  linarith

/-- The interval of a valid configuration is its number of seconds, rounded to whole nanoseconds,
exactly when that number is below 2^64. It is the standard interval exactly when the number is
rounded to that or is 2^64 and above. -/
theorem rounds_seconds_iff (hinterval : config.interval = some seconds)
    (hvalid : config.fault? = none) :
    (IsNearest config.effectiveInterval.nanoseconds (seconds.toRat * Duration.nanosPerSecond) ↔
        seconds.toRat < 2 ^ 64) ∧
      (config.effectiveInterval = defaultInterval ↔
        IsNearest defaultInterval.nanoseconds (seconds.toRat * Duration.nanosPerSecond) ∨
          2 ^ 64 ≤ seconds.toRat) := by
  have hseconds := isInterval_of_fault?_eq_none hinterval hvalid
  have hsign := isNegative_of_isInterval hseconds
  rw [effectiveInterval_of_isInterval hinterval hseconds]
  by_cases hshort : seconds.toRat < 2 ^ 64
  · rw [if_pos hshort, isNearest_nanoseconds_iff hsign, isNearest_nanoseconds_iff hsign]
    refine ⟨iff_of_true rfl hshort, ?_⟩
    rw [or_iff_left (not_le.mpr hshort)]
    exact ⟨congrArg Duration.nanoseconds, congrArg Duration.mk⟩
  · have hlong : 2 ^ 64 ≤ seconds.toRat := not_lt.mp hshort
    rw [if_neg hshort]
    exact ⟨iff_of_false (not_isNearest_defaultInterval hlong) hshort,
      iff_of_true rfl (Or.inr hlong)⟩

/-- 2^64 seconds are valid, and the collector waits for half a minute instead. -/
theorem two_pow_64_seconds_become_standard :
    let seconds : Binary64 := ⟨0x43f0000000000000⟩
    let config : Config := { empty with interval := some seconds }
    config.fault? = none ∧ 2 ^ 64 ≤ seconds.toRat ∧ config.effectiveInterval = defaultInterval ∧
      ¬ IsNearest config.effectiveInterval.nanoseconds
        (seconds.toRat * Duration.nanosPerSecond) := by
  intro seconds config
  have hvalid : config.fault? = none := by decide
  have hlong : 2 ^ 64 ≤ seconds.toRat := by
    rw [← not_lt, ← nearestNanoseconds_div_lt_iff (by decide)]
    decide +kernel
  obtain ⟨hrounds, hstandard⟩ := rounds_seconds_iff (rfl : config.interval = some seconds) hvalid
  exact ⟨hvalid, hlong, hstandard.mpr (Or.inr hlong), mt hrounds.mp (not_lt.mpr hlong)⟩

end SocketMetrics.Config
