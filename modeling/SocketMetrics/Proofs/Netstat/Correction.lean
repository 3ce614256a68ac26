import SocketMetrics.Netstat.Counters
import SocketMetrics.Proofs.Number.Count
import SocketMetrics.Proofs.Steps
/-!
# Correcting the counters of a section

When a section has the numbers that the correction needs, and what the correction makes of them.
`Counters.correct_eq_ok_iff` gives all corrected sections: one without drops stays as it is, and in
any other the canonical numeral of the drops without the overflows is in force.
`Counters.correct_eq_error_iff` gives all failures: over a value that `Offends`, and over no other.
-/

set_option autoImplicit false
set_option relaxedAutoImplicit false

namespace SocketMetrics.Netstat

open Number Steps

/-! ### Values -/

theorem Counters.raw?_insert (counters : Counters) (counter raw name : Text) :
    (counters.insert counter raw).raw? name =
      if name = counter then some raw else counters.raw? name := by
  unfold Counters.raw? Counters.insert
  rw [List.lookup_cons]
  by_cases hname : name = counter
  · simp [hname]
  · rw [beq_false_of_ne hname, if_neg hname]

/-- A counter has no number when it is missing. -/
theorem Counters.value?_eq_ok_none_iff {counters : Counters} {counter : Text} :
    counters.value? counter = .ok none ↔ counters.raw? counter = none := by
  unfold Counters.value?
  cases counters.raw? counter with
  | none => simp
  | some raw =>
    cases hcount : count? raw with
    | none => simp [hcount]
    | some found => simp [hcount]

/-- A counter has a number when its value looks like one. -/
theorem Counters.value?_eq_ok_some_iff {counters : Counters} {counter : Text} {value : UInt64} :
    counters.value? counter = .ok (some value) ↔
      ∃ raw, counters.raw? counter = some raw ∧ IsCount raw value.toNat := by
  simp only [← count?_eq_some_iff]
  unfold Counters.value?
  cases counters.raw? counter with
  | none => simp
  | some raw =>
    cases hcount : count? raw with
    | none => simp [hcount]
    | some found => simp [hcount]

/-- Only a value that is no number stands in the way of a number. -/
theorem Counters.value?_eq_error_iff {counters : Counters} {counter : Text} {error : TableError} :
    counters.value? counter = .error error ↔
      ∃ raw, counters.raw? counter = some raw ∧ (∀ n, ¬ IsCount raw n) ∧
        error = .invalidValue counters.of counter raw := by
  unfold Counters.value?
  cases counters.raw? counter with
  | none => simp
  | some raw =>
    cases hcount : count? raw with
    | none => simp [isCount_iff, hcount, eq_comm]
    | some found => simp [isCount_iff, hcount]

/-! ### The correction -/

/-- The number of overflows that the correction takes out. -/
def Counters.Overflows (counters : Counters) (overflows : ℕ) : Prop :=
  (counters.raw? listenOverflows = none ∧ overflows = 0) ∨
    ∃ raw, counters.raw? listenOverflows = some raw ∧ IsCount raw overflows

/-- Missing overflows count as zero. -/
theorem Counters.overflows_iff {counters : Counters} {overflows : ℕ} :
    counters.Overflows overflows ↔
      ∃ value, counters.value? listenOverflows = .ok value ∧
        (value.getD 0).toNat = overflows := by
  constructor
  · rintro (⟨hnone, rfl⟩ | ⟨raw, hraw, hcount⟩)
    · exact ⟨none, Counters.value?_eq_ok_none_iff.mpr hnone, rfl⟩
    · obtain ⟨value, -, rfl⟩ := isCount_iff.mp hcount
      exact ⟨some value, Counters.value?_eq_ok_some_iff.mpr ⟨raw, hraw, hcount⟩, rfl⟩
  · rintro ⟨value, hvalue, rfl⟩
    cases value with
    | none => exact Or.inl ⟨Counters.value?_eq_ok_none_iff.mp hvalue, rfl⟩
    | some value => exact Or.inr (Counters.value?_eq_ok_some_iff.mp hvalue)

/-- The correction leaves a section without drops alone and otherwise puts the drops without the
overflows in force. -/
theorem Counters.correct_eq_ok_iff {counters corrected : Counters} :
    counters.correct = .ok corrected ↔
      (counters.raw? listenDrops = none ∧ corrected = counters) ∨
        ∃ raw drops overflows, counters.raw? listenDrops = some raw ∧ IsCount raw drops ∧
          counters.Overflows overflows ∧
          corrected = counters.insert listenDrops (decimal (drops - overflows)) := by
  rw [Counters.correct, bind_eq_ok_iff]
  constructor
  · rintro ⟨value, hvalue, hcorrect⟩
    cases value with
    | none => exact Or.inl ⟨Counters.value?_eq_ok_none_iff.mp hvalue, (Except.ok.inj hcorrect).symm⟩
    | some drops =>
      obtain ⟨raw, hraw, hcount⟩ := Counters.value?_eq_ok_some_iff.mp hvalue
      obtain ⟨overflows, hoverflows, hdone⟩ := bind_eq_ok_iff.mp hcorrect
      rw [pure_eq_ok, Except.ok.injEq, toNat_saturatingSub] at hdone
      exact Or.inr ⟨raw, _, _, hraw, hcount,
        Counters.overflows_iff.mpr ⟨overflows, hoverflows, rfl⟩, hdone.symm⟩
  · rintro (⟨hnone, rfl⟩ | ⟨raw, drops, overflows, hraw, hcount, hoverflows, rfl⟩)
    · exact ⟨none, Counters.value?_eq_ok_none_iff.mpr hnone, rfl⟩
    · obtain ⟨value, -, rfl⟩ := isCount_iff.mp hcount
      obtain ⟨taken, htaken, rfl⟩ := Counters.overflows_iff.mp hoverflows
      refine ⟨some value, Counters.value?_eq_ok_some_iff.mpr ⟨raw, hraw, hcount⟩, ?_⟩
      refine bind_eq_ok_iff.mpr ⟨taken, htaken, ?_⟩
      rw [pure_eq_ok, toNat_saturatingSub]

/-- The correction keeps the section. -/
theorem of_correct {counters corrected : Counters} (hcorrect : counters.correct = .ok corrected) :
    corrected.of = counters.of := by
  rcases Counters.correct_eq_ok_iff.mp hcorrect with ⟨-, rfl⟩ | ⟨_, _, _, -, -, -, rfl⟩
  · rfl
  · rfl

/-- A value that stands in the way of the correction, where `has name raw` says which values there
are: drops that are no number or, where the drops are one, overflows that are none. -/
inductive Offends (has : Text → Text → Prop) : Text → Text → Prop where
  | drops {raw : Text} (hraw : has listenDrops raw) (hcount : ∀ n, ¬ IsCount raw n) :
      Offends has listenDrops raw
  | overflows {written raw : Text} {drops : ℕ} (hwritten : has listenDrops written)
      (hdrops : IsCount written drops) (hraw : has listenOverflows raw)
      (hcount : ∀ n, ¬ IsCount raw n) :
      Offends has listenOverflows raw

/-- Only drops and overflows can offend. -/
theorem Offends.counter_eq {has : Text → Text → Prop} {counter raw : Text}
    (hoffends : Offends has counter raw) : counter = listenDrops ∨ counter = listenOverflows := by
  cases hoffends with
  | drops => exact Or.inl rfl
  | overflows => exact Or.inr rfl

/-- The correction fails over a value that offends. -/
theorem Counters.correct_eq_error_iff {counters : Counters} {error : TableError} :
    counters.correct = .error error ↔
      ∃ counter raw, Offends (fun name raw ↦ counters.raw? name = some raw) counter raw ∧
        error = .invalidValue counters.of counter raw := by
  rw [Counters.correct, bind_eq_error_iff]
  constructor
  · rintro (hdrops | ⟨value, hvalue, hrest⟩)
    · obtain ⟨raw, hraw, hcount, rfl⟩ := Counters.value?_eq_error_iff.mp hdrops
      exact ⟨listenDrops, raw, .drops hraw hcount, rfl⟩
    · cases value with
      | none => cases hrest
      | some drops =>
        obtain ⟨written, hwritten, hdrops⟩ := Counters.value?_eq_ok_some_iff.mp hvalue
        rcases bind_eq_error_iff.mp hrest with hoverflows | ⟨overflows, -, hdone⟩
        · obtain ⟨raw, hraw, hcount, rfl⟩ := Counters.value?_eq_error_iff.mp hoverflows
          exact ⟨listenOverflows, raw, .overflows hwritten hdrops hraw hcount, rfl⟩
        · cases hdone
  · rintro ⟨counter, raw, hoffends, rfl⟩
    cases hoffends with
    | drops hraw hcount => exact Or.inl (Counters.value?_eq_error_iff.mpr ⟨raw, hraw, hcount, rfl⟩)
    | overflows hwritten hdrops hraw hcount =>
      obtain ⟨value, -, rfl⟩ := isCount_iff.mp hdrops
      have hvalue := Counters.value?_eq_ok_some_iff.mpr ⟨_, hwritten, hdrops⟩
      have hfault := Counters.value?_eq_error_iff.mpr ⟨raw, hraw, hcount, rfl⟩
      exact Or.inr ⟨some value, hvalue, bind_eq_error_iff.mpr (Or.inl hfault)⟩

end SocketMetrics.Netstat
