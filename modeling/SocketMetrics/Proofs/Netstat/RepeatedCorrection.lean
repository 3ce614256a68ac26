import SocketMetrics.Proofs.Netstat.Correction
/-!
# Correcting a section more than once

`Counters.correction` corrects a section in place. It leaves the corrected section, or the section
as it was when it fails (`Counters.call_eq`). `Counters.CorrectedBy times` says in closed form what
so many corrections make of a section: the overflows are taken out of the drops as many times, down
to zero, and no other counter is touched. Corrections add up (`Counters.CorrectedBy.trans`), and
what one leaves can be corrected again (`Counters.exists_correct_of_correct`). So all of them
succeed when the first does (`corrects_in_closed_form`). They are not one correction made several
times over: each of them takes the overflows out once more.
-/

set_option autoImplicit false
set_option relaxedAutoImplicit false

namespace SocketMetrics.Netstat

open Number Steps

/-! ### In place -/

/-- Something done to a section in place, which may fail on the way. -/
abbrev InPlace := ExceptT TableError (StateM Counters)

/-- What cannot be read ends what is done in place and changes nothing. -/
theorem run_read_bind {α β : Type} (read : Counters → Except TableError α) (next : α → InPlace β)
    (counters : Counters) :
    (do next (← read (← get)) : InPlace β).run.run counters = match read counters with
      | .ok found => (next found).run.run counters
      | .error fault => (.error fault, counters) := by
  change StateT.run (ExceptT.bindCont next (read counters)) counters = _
  cases read counters with
  | ok found => rfl
  | error fault => rfl

namespace Counters

/-- The correction of a section in place. -/
def correction : InPlace Unit := do
  match ← (← get).value? listenDrops with
  | none => return
  | some drops =>
    let overflows := (← (← get).value? listenOverflows).getD 0
    modify (·.insert listenDrops (decimal (saturatingSub drops overflows).toNat))

/-- What a correction in place returns, and the section that it leaves. -/
def call (counters : Counters) : Except TableError Unit × Counters :=
  correction.run.run counters

/-- What so many corrections in place return, one after the other, and the section that they
leave. -/
def calls : ℕ → Counters → List (Except TableError Unit) × Counters
  | 0, counters => ([], counters)
  | times + 1, counters =>
    let (result, left) := counters.call
    let (results, last) := calls times left
    (result :: results, last)

/-- A correction in place leaves the corrected section, or the section as it was if it fails. -/
theorem call_eq (counters : Counters) :
    counters.call = match counters.correct with
      | .ok corrected => (.ok (), corrected)
      | .error fault => (.error fault, counters) := by
  unfold call correction correct
  rw [run_read_bind (·.value? listenDrops)]
  cases counters.value? listenDrops with
  | error fault => rfl
  | ok value =>
    cases value with
    | none => rfl
    | some drops =>
      simp only
      rw [run_read_bind (·.value? listenOverflows)]
      cases counters.value? listenOverflows with
      | error fault => rfl
      | ok overflows => rfl

variable {counters corrected last : Counters}

theorem call_eq_ok_iff :
    counters.call = (.ok (), corrected) ↔ counters.correct = .ok corrected := by
  rw [call_eq]
  cases counters.correct with
  | error fault => simp
  | ok found => simp

theorem call_eq_error_iff {fault : TableError} :
    counters.call = (.error fault, corrected) ↔
      counters.correct = .error fault ∧ corrected = counters := by
  rw [call_eq]
  cases counters.correct with
  | error found => simp [eq_comm]
  | ok found => simp

/-! ### The closed form -/

/-- What so many corrections make of a section: its drops are the canonical numeral of what is left
of them without so many times the overflows, and everything else is as it was. -/
structure CorrectedBy (times : ℕ) (counters corrected : Counters) : Prop where
  of_eq : corrected.of = counters.of
  /-- No counter appears or disappears. -/
  isSome_raw? : ∀ name, (corrected.raw? name).isSome = (counters.raw? name).isSome
  raw?_of_ne : ∀ name, name ≠ listenDrops → corrected.raw? name = counters.raw? name
  raw?_drops : ∀ raw, counters.raw? listenDrops = some raw → ∃ drops overflows,
    IsCount raw drops ∧ counters.Overflows overflows ∧
      corrected.raw? listenDrops = some (decimal (drops - times * overflows))

/-- There is one number of overflows. -/
theorem Overflows.unique {first second : ℕ} (hfirst : counters.Overflows first)
    (hsecond : counters.Overflows second) : first = second := by
  obtain ⟨one, hone, rfl⟩ := overflows_iff.mp hfirst
  obtain ⟨other, hother, rfl⟩ := overflows_iff.mp hsecond
  rw [hone] at hother
  rw [Except.ok.inj hother]

/-- The overflows are those of any section that has the same text for them. -/
theorem Overflows.congr {overflows : ℕ} (hoverflows : counters.Overflows overflows)
    (hraw : corrected.raw? listenOverflows = counters.raw? listenOverflows) :
    corrected.Overflows overflows := by
  unfold Overflows
  rw [hraw]
  exact hoverflows

/-- One correction takes the overflows out once. -/
theorem correctedBy_one (hcorrect : counters.correct = .ok corrected) :
    CorrectedBy 1 counters corrected := by
  rcases correct_eq_ok_iff.mp hcorrect with
    ⟨hnone, rfl⟩ | ⟨raw, drops, overflows, hraw, hcount, hoverflows, rfl⟩
  · exact ⟨rfl, fun _ ↦ rfl, fun _ _ ↦ rfl, fun raw hraw ↦ by rw [hnone] at hraw; cases hraw⟩
  · refine ⟨rfl, fun name ↦ ?_, fun name hname ↦ ?_, fun written hwritten ↦ ?_⟩
    · rw [raw?_insert]
      split_ifs with hname
      · rw [hname, hraw]
        rfl
      · rfl
    · rw [raw?_insert, if_neg hname]
    · rw [hraw] at hwritten
      obtain rfl := Option.some.inj hwritten
      exact ⟨drops, overflows, hcount, hoverflows, by rw [raw?_insert, if_pos rfl, Nat.one_mul]⟩

/-- Corrections add up. -/
theorem CorrectedBy.trans {times more : ℕ} (hcorrected : CorrectedBy times counters corrected)
    (hlast : CorrectedBy more corrected last) : CorrectedBy (times + more) counters last := by
  refine ⟨hlast.of_eq.trans hcorrected.of_eq, fun name ↦ ?_, fun name hname ↦ ?_,
    fun raw hraw ↦ ?_⟩
  · rw [hlast.isSome_raw?, hcorrected.isSome_raw?]
  · rw [hlast.raw?_of_ne name hname, hcorrected.raw?_of_ne name hname]
  · obtain ⟨drops, overflows, hdrops, hoverflows, hmiddle⟩ := hcorrected.raw?_drops raw hraw
    obtain ⟨left, again, hleft, hagain, hend⟩ := hlast.raw?_drops _ hmiddle
    have hbound : drops - times * overflows < 2 ^ 64 :=
      Nat.lt_of_le_of_lt (Nat.sub_le _ _) hdrops.lt
    have hkept : corrected.Overflows overflows :=
      hoverflows.congr (hcorrected.raw?_of_ne _ (by decide))
    obtain rfl : left = drops - times * overflows := hleft.unique (isCount_decimal hbound)
    obtain rfl : again = overflows := hagain.unique hkept
    refine ⟨drops, again, hdrops, hoverflows, ?_⟩
    rw [hend, Nat.sub_sub, Nat.add_mul]

/-- What a correction leaves can be corrected again. -/
theorem exists_correct_of_correct (hcorrect : counters.correct = .ok corrected) :
    ∃ again, corrected.correct = .ok again := by
  rcases correct_eq_ok_iff.mp hcorrect with
    ⟨-, rfl⟩ | ⟨raw, drops, overflows, hraw, hcount, hoverflows, rfl⟩
  · exact ⟨_, hcorrect⟩
  · have hbound : drops - overflows < 2 ^ 64 := Nat.lt_of_le_of_lt (Nat.sub_le _ _) hcount.lt
    have hkept : (counters.insert listenDrops (decimal (drops - overflows))).Overflows overflows :=
      hoverflows.congr (by rw [raw?_insert, if_neg (by decide)])
    refine ⟨_, correct_eq_ok_iff.mpr (Or.inr ⟨_, _, _, ?_, isCount_decimal hbound, hkept, rfl⟩)⟩
    rw [raw?_insert, if_pos rfl]

/-! ### Any number of corrections -/

/-- When the first correction succeeds, all of them do, and they add up. -/
theorem calls_of_correct {times : ℕ} (hcorrect : counters.correct = .ok corrected) :
    (counters.calls (times + 1)).1 = List.replicate (times + 1) (.ok ()) ∧
      CorrectedBy (times + 1) counters (counters.calls (times + 1)).2 := by
  induction times generalizing counters corrected with
  | zero =>
    rw [calls, call_eq_ok_iff.mpr hcorrect]
    exact ⟨rfl, correctedBy_one hcorrect⟩
  | succ times ih =>
    obtain ⟨again, hagain⟩ := exists_correct_of_correct hcorrect
    obtain ⟨hresults, hlast⟩ := ih hagain
    have hboth := (correctedBy_one hcorrect).trans hlast
    rw [Nat.add_comm 1] at hboth
    rw [calls, call_eq_ok_iff.mpr hcorrect]
    exact ⟨congrArg (.ok () :: ·) hresults, hboth⟩

/-- When the first correction fails, all of them do, and none changes the section. -/
theorem calls_of_fault {fault : TableError} (hcorrect : counters.correct = .error fault)
    (times : ℕ) : counters.calls times = (List.replicate times (.error fault), counters) := by
  induction times with
  | zero => rfl
  | succ times ih =>
    rw [calls, call_eq_error_iff.mpr ⟨hcorrect, rfl⟩]
    simp only [ih, List.replicate_succ]

end Counters

/-- When the first of several corrections succeeds, all of them do: the drops, if there are any, are
then the canonical numeral of what is left of them without the overflows taken out so many times,
and nothing else has changed. A correction fails over drops that are no number or, if they are one, over
overflows that are none, and then the section is as it was however often it is corrected. -/
theorem corrects_in_closed_form (counters : Counters) :
    (∀ times, 0 < times → counters.call.1 = .ok () →
      (counters.calls times).1 = List.replicate times (.ok ()) ∧
        Counters.CorrectedBy times counters (counters.calls times).2) ∧
    ∀ fault, counters.call.1 = .error fault →
      (∃ counter raw, Offends (fun name raw ↦ counters.raw? name = some raw) counter raw ∧
        fault = .invalidValue counters.of counter raw) ∧
      counters.call.2 = counters ∧
      ∀ times, counters.calls times = (List.replicate times (.error fault), counters) := by
  constructor
  · intro times htimes hcall
    obtain ⟨fewer, rfl⟩ := Nat.exists_eq_succ_of_ne_zero htimes.ne'
    have hcorrect : counters.correct = .ok counters.call.2 :=
      Counters.call_eq_ok_iff.mp (Prod.ext hcall rfl)
    exact Counters.calls_of_correct hcorrect
  · intro fault hcall
    obtain ⟨hcorrect, hleft⟩ := Counters.call_eq_error_iff.mp (Prod.ext hcall rfl)
    exact ⟨Counters.correct_eq_error_iff.mp hcorrect, hleft, Counters.calls_of_fault hcorrect⟩

/-- Three corrections take three overflows each out of ten drops, which were written with a plus
sign and a zero in front; overflows that are no number stop every correction. -/
theorem corrects_ten_drops_three_times :
    let counters : Counters := ⟨.tcp,
      [("OutRsts".toList, "x".toList), (listenOverflows, "3".toList),
        (listenDrops, "+010".toList)]⟩
    let unreadable : Counters := ⟨.tcp,
      [(listenOverflows, "x".toList), (listenDrops, "10".toList)]⟩
    let fault := TableError.invalidValue .tcp listenOverflows "x".toList
    (0 < 3 ∧ counters.call.1 = .ok () ∧ unreadable.call.1 = .error fault) ∧
      (counters.calls 3).1 = [.ok (), .ok (), .ok ()] ∧
      (counters.calls 3).2.raw? "OutRsts".toList = some "x".toList ∧
      (counters.calls 3).2.raw? listenDrops = some "1".toList ∧
      unreadable.calls 2 = ([.error fault, .error fault], unreadable) := by
  intro counters unreadable fault
  have hcall : counters.call.1 = .ok () := by decide
  have hfault : unreadable.call.1 = .error fault := by decide
  obtain ⟨hresults, hlast⟩ := (corrects_in_closed_form counters).1 3 (by decide) hcall
  obtain ⟨drops, overflows, hdrops, hoverflows, hleft⟩ := hlast.raw?_drops _ rfl
  obtain rfl : drops = 10 := hdrops.unique (isCount_iff.mpr ⟨10, by decide, rfl⟩)
  obtain rfl : overflows = 3 :=
    hoverflows.unique (Or.inr ⟨_, rfl, isCount_iff.mpr ⟨3, by decide, rfl⟩⟩)
  exact ⟨⟨by decide, hcall, hfault⟩, hresults, hlast.raw?_of_ne _ (by decide), hleft,
    ((corrects_in_closed_form unreadable).2 fault hfault).2.2 2⟩

end SocketMetrics.Netstat
