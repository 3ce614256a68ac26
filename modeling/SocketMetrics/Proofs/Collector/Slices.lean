import Mathlib.Algebra.BigOperators.Group.List.Basic
import SocketMetrics.Proofs.Collector.Sleep
/-!
# A sleep slice by slice

`sleepUnder` sleeps under a watch of any kind, one that never tires of answering included: what is
left of the sleep grows less with every slice, so that the sleep comes to an end in any case. A
watch that is a list of answers is one of them (`sleep_eq_toSleep`). Undisturbed, a sleep consists
of the slices of its length (`slicesOf`), and these are as many, as long and in sum as much as they
should be (`length_slicesOf`, `bounds_slicesOf`, `sum_slicesOf`). Under any watch it consists of a
beginning of them, with one question in front of each (`sleepUnder_of_alive`,
`sleepUnder_of_gone`). `Night.IsExact` collects what is exact about it (`sleeps_exactly`).
-/

set_option autoImplicit false
set_option relaxedAutoImplicit false

namespace SocketMetrics.Collector

open Number

/-! ### The slices of a length -/

theorem longestSlice_pos : 0 < longestSlice.nanoseconds :=
  longestSlice_nanoseconds ▸ nanosPerSecond_pos

/-- Every slice brings a sleep nearer to its end. -/
theorem behindSlice_lt {remaining : Duration} (hremaining : remaining.nanoseconds ≠ 0) :
    (behindSlice remaining).nanoseconds < remaining.nanoseconds := by
  have hlongest := longestSlice_pos
  unfold behindSlice firstSlice
  simp only
  omega

/-- The slices of an undisturbed sleep of some length. -/
def slicesOf (remaining : Duration) : List Duration :=
  if _hzero : remaining.nanoseconds = 0 then []
  else firstSlice remaining :: slicesOf (behindSlice remaining)
termination_by remaining.nanoseconds
decreasing_by exact behindSlice_lt _hzero

section Lengths

variable {remaining : Duration}

theorem slicesOf_of_zero (hzero : remaining.nanoseconds = 0) : slicesOf remaining = [] := by
  rw [slicesOf, dif_pos hzero]

theorem slicesOf_of_ne_zero (hremaining : remaining.nanoseconds ≠ 0) :
    slicesOf remaining = firstSlice remaining :: slicesOf (behindSlice remaining) := by
  rw [slicesOf, dif_neg hremaining]

/-- There are as many slices as seconds, the last one begun counting in full. -/
theorem length_slicesOf (remaining : Duration) :
    (slicesOf remaining).length = slices remaining := by
  fun_induction slicesOf remaining with
  | case1 remaining hzero => rw [slices_of_zero hzero, List.length_nil]
  | case2 remaining hremaining ih => rw [slices_eq_succ hremaining, List.length_cons, ih]

/-- The slices make up the length. -/
theorem sum_slicesOf (remaining : Duration) :
    ((slicesOf remaining).map Duration.nanoseconds).sum = remaining.nanoseconds := by
  fun_induction slicesOf remaining with
  | case1 remaining hzero => rw [List.map_nil, List.sum_nil, hzero]
  | case2 remaining hremaining ih =>
    rw [List.map_cons, List.sum_cons, ih]
    exact Nat.add_sub_cancel' (Nat.min_le_left _ _)

/-- No slice is empty, and none is longer than a slice can be. -/
theorem bounds_slicesOf (remaining : Duration) : ∀ slice ∈ slicesOf remaining,
    0 < slice.nanoseconds ∧ slice.nanoseconds ≤ longestSlice.nanoseconds := by
  fun_induction slicesOf remaining with
  | case1 remaining hzero => simp
  | case2 remaining hremaining ih =>
    have hfirst : 0 < (firstSlice remaining).nanoseconds :=
      Nat.lt_min.mpr ⟨Nat.pos_of_ne_zero hremaining, longestSlice_pos⟩
    exact List.forall_mem_cons.mpr ⟨⟨hfirst, Nat.min_le_right _ _⟩, ih⟩

/-- All slices but the last are as long as a slice can be. -/
theorem eq_longestSlice_of_mem_dropLast (remaining : Duration) :
    ∀ slice ∈ (slicesOf remaining).dropLast, slice = longestSlice := by
  fun_induction slicesOf remaining with
  | case1 remaining hzero => simp
  | case2 remaining hremaining ih =>
    by_cases hbehind : (behindSlice remaining).nanoseconds = 0
    · rw [slicesOf_of_zero hbehind]
      simp
    · have hlong : longestSlice.nanoseconds ≤ remaining.nanoseconds := by
        unfold behindSlice firstSlice at hbehind
        simp only at hbehind
        omega
      have hfirst : firstSlice remaining = longestSlice := by
        rw [firstSlice, Nat.min_eq_right hlong]
      have hmore : slicesOf (behindSlice remaining) ≠ [] := by
        rw [slicesOf_of_ne_zero hbehind]
        exact List.cons_ne_nil _ _
      rw [List.dropLast_cons_of_ne_nil hmore, List.forall_mem_cons]
      exact ⟨hfirst, ih⟩

/-- A sleep that is broken off consists of slices as long as a slice can be. -/
theorem take_slicesOf {count : ℕ} (hcount : count < slices remaining) :
    (slicesOf remaining).take count = List.replicate count longestSlice := by
  have hlength := length_slicesOf remaining
  refine List.eq_replicate_iff.mpr ⟨?_, fun slice hslice ↦ ?_⟩
  · rw [List.length_take]
    omega
  · refine eq_longestSlice_of_mem_dropLast remaining slice ?_
    rw [List.dropLast_eq_take]
    refine List.take_subset_take_left _ ?_ hslice
    omega

end Lengths

/-! ### Under a watch of any kind -/

/-- What happens in a sleep under a watch of some kind. -/
structure Night (σ : Type) where
  actions : List Action
  /-- Whether the sleep came to its end. -/
  completed : Bool
  /-- The watch afterwards. -/
  watch : σ

section Watches

variable {σ : Type} (ask : σ → Bool × σ)

/-- Sleeps for the given time, as long as the parent is alive, under a watch of any kind: `ask`
gives the answer of a watch and what the watch is after it has answered. -/
def sleepUnder (remaining : Duration) (watch : σ) : Night σ :=
  if _hzero : remaining.nanoseconds = 0 then ⟨[], true, watch⟩
  else match ask watch with
    | (true, later) =>
      let others := sleepUnder (behindSlice remaining) later
      { others with actions := .asked true :: .slept (firstSlice remaining) :: others.actions }
    | (false, later) => ⟨[.asked false], false, later⟩
termination_by remaining.nanoseconds
decreasing_by exact behindSlice_lt _hzero

/-- The watch after so many questions. -/
def watchAfter (questions : ℕ) (watch : σ) : σ :=
  (fun watch ↦ (ask watch).2)^[questions] watch

/-- The answer of the watch after so many others. -/
def answerAfter (questions : ℕ) (watch : σ) : Bool :=
  (ask (watchAfter ask questions watch)).1

theorem watchAfter_succ (questions : ℕ) (watch : σ) :
    watchAfter ask (questions + 1) watch = watchAfter ask questions (ask watch).2 :=
  Function.iterate_succ_apply _ _ _

/-- The question in front of a slice, and the slice. -/
def askAndSleep (slice : Duration) : List Action :=
  [.asked true, .slept slice]

variable {ask} {remaining : Duration} {watch : σ}

/-- A sleep goes on for a slice when the watch finds the parent alive. -/
theorem sleepUnder_of_true (hremaining : remaining.nanoseconds ≠ 0)
    (halive : (ask watch).1 = true) :
    sleepUnder ask remaining watch =
      { sleepUnder ask (behindSlice remaining) (ask watch).2 with
        actions := askAndSleep (firstSlice remaining) ++
          (sleepUnder ask (behindSlice remaining) (ask watch).2).actions } := by
  rw [sleepUnder, dif_neg hremaining]
  split
  · next later heq => rw [heq]; rfl
  · next later heq =>
    rw [heq] at halive
    cases halive

/-- A sleep is broken off when the watch finds the parent gone. -/
theorem sleepUnder_of_false (hremaining : remaining.nanoseconds ≠ 0)
    (hgone : (ask watch).1 = false) :
    sleepUnder ask remaining watch = ⟨[.asked false], false, (ask watch).2⟩ := by
  rw [sleepUnder, dif_neg hremaining]
  split
  · next later heq =>
    rw [heq] at hgone
    cases hgone
  · next later heq => rw [heq]

/-- A sleep under a watch that finds the parent alive for each of its slices consists of them. -/
theorem sleepUnder_of_alive
    (halive : ∀ question < slices remaining, answerAfter ask question watch = true) :
    sleepUnder ask remaining watch =
      ⟨(slicesOf remaining).flatMap askAndSleep, true,
        watchAfter ask (slices remaining) watch⟩ := by
  fun_induction slicesOf remaining generalizing watch with
  | case1 remaining hzero =>
    rw [sleepUnder, dif_pos hzero, slices_of_zero hzero]
    rfl
  | case2 remaining hremaining ih =>
    rw [slices_eq_succ hremaining] at halive ⊢
    have hfirst : (ask watch).1 = true := halive 0 (Nat.succ_pos _)
    have hlater : ∀ question < slices (behindSlice remaining),
        answerAfter ask question (ask watch).2 = true :=
      fun question hquestion ↦ halive (question + 1) (Nat.succ_lt_succ hquestion)
    rw [sleepUnder_of_true hremaining hfirst, ih hlater, watchAfter_succ, List.flatMap_cons]

/-- A sleep under a watch that finds the parent gone in front of one of the slices consists of those
before it. -/
theorem sleepUnder_of_gone {question : ℕ} (hquestion : question < slices remaining)
    (halive : ∀ earlier < question, answerAfter ask earlier watch = true)
    (hgone : answerAfter ask question watch = false) :
    sleepUnder ask remaining watch =
      ⟨((slicesOf remaining).take question).flatMap askAndSleep ++ [.asked false], false,
        watchAfter ask (question + 1) watch⟩ := by
  have hremaining : remaining.nanoseconds ≠ 0 := fun hzero ↦
    Nat.not_lt_zero _ (slices_of_zero hzero ▸ hquestion)
  induction question generalizing remaining watch with
  | zero =>
    have hfirst : (ask watch).1 = false := hgone
    rw [sleepUnder_of_false hremaining hfirst]
    rfl
  | succ question ih =>
    rw [slices_eq_succ hremaining] at hquestion
    have hbehind := Nat.lt_of_succ_lt_succ hquestion
    have hsome : (behindSlice remaining).nanoseconds ≠ 0 := fun hzero ↦
      Nat.not_lt_zero _ (slices_of_zero hzero ▸ hbehind)
    have hfirst : (ask watch).1 = true := halive 0 (Nat.succ_pos _)
    have hlater : ∀ earlier < question, answerAfter ask earlier (ask watch).2 = true :=
      fun earlier hearlier ↦ halive (earlier + 1) (Nat.succ_lt_succ hearlier)
    rw [sleepUnder_of_true hremaining hfirst, ih hbehind hlater hgone hsome,
      slicesOf_of_ne_zero hremaining, List.take_succ_cons, List.flatMap_cons, List.append_assoc,
      watchAfter_succ ask (question + 1)]

theorem asks_flatMap_askAndSleep (naps : List Duration) :
    asks (naps.flatMap askAndSleep) = naps.length := by
  induction naps with
  | nil => rfl
  | cons nap naps ih =>
    rw [List.flatMap_cons, askAndSleep, List.cons_append, List.cons_append, List.nil_append,
      asks_slice, ih, List.length_cons]

end Watches

/-! ### Under a list of answers -/

/-- A list of answers gives its first one; a list with none left finds the parent gone. -/
def Watch.ask : Watch → Bool × Watch
  | [] => (false, [])
  | alive :: later => (alive, later)

/-- A broken-off sleep leaves no watch. -/
def Night.toSleep (night : Night Watch) : Sleep :=
  ⟨night.actions, if night.completed then some night.watch else none⟩

/-- A sleep under a list of answers is a sleep under a watch of this kind. -/
theorem sleep_eq_toSleep (remaining : Duration) (watch : Watch) :
    sleep remaining watch = (sleepUnder Watch.ask remaining watch).toSleep := by
  fun_induction sleep remaining watch with
  | case1 remaining watch hzero =>
    rw [sleepUnder, dif_pos hzero]
    rfl
  | case2 remaining hremaining later slice others ih =>
    have hothers : sleep (behindSlice remaining) later = _ := ih
    rw [sleepUnder_of_true hremaining rfl]
    change Sleep.mk (_ :: _ :: (sleep (behindSlice remaining) later).actions)
      (sleep (behindSlice remaining) later).rest = _
    rw [hothers]
    rfl
  | case3 watch remaining hremaining hwatch =>
    have hgone : (Watch.ask watch).1 = false := by
      rcases watch with _ | ⟨_ | _, later⟩
      · rfl
      · rfl
      · exact (hwatch later rfl).elim
    rw [sleepUnder_of_false hremaining hgone]
    rfl

/-! ### Exactness -/

section Exactness

variable {σ : Type} {ask : σ → Bool × σ} {length : Duration} {watch : σ}

/-- What is exact about a night that was to last for some length under some watch, and in which
there were these naps. -/
structure Night.IsExact (night : Night σ) (ask : σ → Bool × σ) (length : Duration) (watch : σ)
    (naps : List Duration) : Prop where
  /-- There is one question in front of each nap, and one more only if it breaks the night off. -/
  actions_eq : night.actions =
    naps.flatMap askAndSleep ++ if night.completed then [] else [.asked false]
  /-- Nothing but these questions has an effect on the watch. -/
  watch_eq : night.watch = watchAfter ask (asks night.actions) watch
  /-- The night ends after no more questions than its length has slices. -/
  asks_le : asks night.actions ≤ slices length
  nap_pos : ∀ nap ∈ naps, 0 < nap.nanoseconds
  nap_le : ∀ nap ∈ naps, nap.nanoseconds ≤ Duration.nanosPerSecond
  nap_eq : ∀ nap ∈ naps.dropLast, nap.nanoseconds = Duration.nanosPerSecond
  of_alive : (∀ question < slices length, answerAfter ask question watch = true) →
    night.completed = true ∧ naps.length = slices length ∧
      (naps.map Duration.nanoseconds).sum = length.nanoseconds
  of_gone : ∀ question < slices length,
    (∀ earlier < question, answerAfter ask earlier watch = true) →
    answerAfter ask question watch = false →
    night.completed = false ∧ naps.length = question ∧
      (naps.map Duration.nanoseconds).sum = question * Duration.nanosPerSecond

/-- A complete sleep is exact. -/
theorem isExact_of_alive
    (halive : ∀ question < slices length, answerAfter ask question watch = true) :
    (sleepUnder ask length watch).IsExact ask length watch (slicesOf length) := by
  have hlength := length_slicesOf length
  have hasks : asks ((slicesOf length).flatMap askAndSleep) = slices length := by
    rw [asks_flatMap_askAndSleep, hlength]
  rw [sleepUnder_of_alive halive]
  exact {
    actions_eq := (List.append_nil _).symm
    watch_eq := by rw [hasks]
    asks_le := hasks.le
    nap_pos := fun nap hnap ↦ (bounds_slicesOf length nap hnap).1
    nap_le := fun nap hnap ↦ longestSlice_nanoseconds ▸ (bounds_slicesOf length nap hnap).2
    nap_eq := fun nap hnap ↦
      eq_longestSlice_of_mem_dropLast length nap hnap ▸ longestSlice_nanoseconds
    of_alive := fun _ ↦ ⟨rfl, hlength, sum_slicesOf length⟩
    of_gone := fun question hquestion _ hgone ↦
      absurd (halive question hquestion) (hgone ▸ Bool.false_ne_true) }

/-- A sleep that is broken off is exact. -/
theorem isExact_of_gone {question : ℕ} (hquestion : question < slices length)
    (halive : ∀ earlier < question, answerAfter ask earlier watch = true)
    (hgone : answerAfter ask question watch = false) :
    (sleepUnder ask length watch).IsExact ask length watch
      (List.replicate question longestSlice) := by
  have hasks : asks ((List.replicate question longestSlice).flatMap askAndSleep ++
      [.asked false]) = question + 1 := by
    rw [asks_append, asks_flatMap_askAndSleep, List.length_replicate]
    rfl
  have hnap : ∀ nap ∈ List.replicate question longestSlice,
      nap.nanoseconds = Duration.nanosPerSecond := fun nap hnap ↦
    List.eq_of_mem_replicate hnap ▸ longestSlice_nanoseconds
  have hsum : ((List.replicate question longestSlice).map Duration.nanoseconds).sum =
      question * Duration.nanosPerSecond := by
    rw [List.map_replicate, List.sum_replicate, smul_eq_mul, longestSlice_nanoseconds]
  rw [sleepUnder_of_gone hquestion halive hgone, take_slicesOf hquestion]
  exact {
    actions_eq := rfl
    watch_eq := by rw [hasks]
    asks_le := hasks.le.trans hquestion
    nap_pos := fun nap hmem ↦ hnap nap hmem ▸ nanosPerSecond_pos
    nap_le := fun nap hmem ↦ (hnap nap hmem).le
    nap_eq := fun nap hmem ↦ hnap nap (List.mem_of_mem_dropLast hmem)
    of_alive := fun hall ↦ absurd (hall question hquestion) (hgone ▸ Bool.false_ne_true)
    of_gone := fun other _ hbefore hother ↦ by
      -- there is only one first bad answer
      have hsame : other = question := by
        rcases Nat.lt_trichotomy other question with hlt | heq | hgt
        · exact absurd (halive other hlt) (hother ▸ Bool.false_ne_true)
        · exact heq
        · exact absurd (hbefore question hgt) (hgone ▸ Bool.false_ne_true)
      exact ⟨rfl, hsame ▸ List.length_replicate, hsame ▸ hsum⟩ }

end Exactness

/-- **Sleeping is exact.** Under a watch of any kind a sleep of any length is exact, and a sleep
under a list of answers is one of them. -/
theorem sleeps_exactly (length : Duration) :
    (∀ {σ : Type} (ask : σ → Bool × σ) (watch : σ),
      ∃ naps, (sleepUnder ask length watch).IsExact ask length watch naps) ∧
    ∀ watch : Watch, sleep length watch = (sleepUnder Watch.ask length watch).toSleep := by
  refine ⟨fun ask watch ↦ ?_, sleep_eq_toSleep length⟩
  by_cases hgone : ∃ question, question < slices length ∧ answerAfter ask question watch = false
  · obtain ⟨hquestion, hfalse⟩ := Nat.find_spec hgone
    refine ⟨_, isExact_of_gone hquestion (fun earlier hearlier ↦ ?_) hfalse⟩
    have hnot := Nat.find_min hgone hearlier
    exact Bool.of_not_eq_false fun hearlierFalse ↦
      hnot ⟨hearlier.trans hquestion, hearlierFalse⟩
  · exact ⟨_, isExact_of_alive fun question hquestion ↦
      Bool.of_not_eq_false fun hfalse ↦ hgone ⟨question, hquestion, hfalse⟩⟩

/-- Two and a half seconds take three naps under a watch that counts its questions and always finds
the parent alive, and a single one of a second under a watch that finds it gone the second time. -/
theorem sleeps_exactly_two_and_a_half_seconds :
    (∃ naps : List Duration, naps.length = 3 ∧
      (naps.map Duration.nanoseconds).sum = 2500000000 ∧
      (sleepUnder (fun asked : ℕ ↦ (true, asked + 1)) ⟨2500000000⟩ 0).completed = true ∧
      (sleepUnder (fun asked : ℕ ↦ (true, asked + 1)) ⟨2500000000⟩ 0).actions =
        naps.flatMap askAndSleep) ∧
    ∃ naps : List Duration, naps.length = 1 ∧
      (naps.map Duration.nanoseconds).sum = Duration.nanosPerSecond ∧
      sleep ⟨2500000000⟩ [true, false] =
        ⟨naps.flatMap askAndSleep ++ [.asked false], none⟩ := by
  have hslices : slices ⟨2500000000⟩ = 3 := by
    simp [slices, Nat.ceilDiv_eq_add_pred_div, Duration.nanosPerSecond]
  obtain ⟨hexact, hlist⟩ := sleeps_exactly ⟨2500000000⟩
  constructor
  · obtain ⟨naps, hnaps⟩ := hexact (fun asked : ℕ ↦ (true, asked + 1)) 0
    obtain ⟨hcompleted, hlength, hsum⟩ := hnaps.of_alive fun _ _ ↦ rfl
    have hactions := hnaps.actions_eq
    rw [hcompleted, if_pos rfl, List.append_nil] at hactions
    exact ⟨naps, hslices ▸ hlength, hsum, hcompleted, hactions⟩
  · obtain ⟨naps, hnaps⟩ := hexact Watch.ask [true, false]
    have hfirst : ∀ earlier < 1, answerAfter Watch.ask earlier [true, false] = true := by decide
    obtain ⟨hbroken, hlength, hsum⟩ :=
      hnaps.of_gone 1 (hslices ▸ by decide) hfirst (by decide)
    have hactions := hnaps.actions_eq
    rw [hbroken, if_neg Bool.false_ne_true] at hactions
    rw [Nat.one_mul] at hsum
    exact ⟨naps, hlength, hsum, by
      rw [hlist, Night.toSleep, hbroken, if_neg Bool.false_ne_true, hactions]⟩

end SocketMetrics.Collector
