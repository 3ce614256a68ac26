import Mathlib.Algebra.Order.Floor.Div
import SocketMetrics.Proofs.Collector.Laps
/-!
# Sleeping under supervision

A sleep either comes to its end and leaves the answers that it did not need, whatever they are
(`sleep_append_of_some`), or it ends with the answer that the parent is gone and would have gone on
otherwise (`sleep_append_of_none`). A complete sleep asks once for each of its slices, of which
there are as many as seconds, the last one begun counting in full (`slices`); with fewer good
answers than that it is broken off (`sleep_of_slices_le`, `sleep_of_lt_slices`).
-/

set_option autoImplicit false
set_option relaxedAutoImplicit false

namespace SocketMetrics.Collector

open Number

variable {remaining : Duration} {watch later rest : Watch}

/-- The slice with which a sleep of some length begins. -/
def firstSlice (remaining : Duration) : Duration :=
  ⟨min remaining.nanoseconds longestSlice.nanoseconds⟩

/-- What is left of a sleep behind its first slice. -/
def behindSlice (remaining : Duration) : Duration :=
  ⟨remaining.nanoseconds - (firstSlice remaining).nanoseconds⟩

/-- A sleep goes on for a slice when the parent is alive. -/
theorem sleep_of_alive (hremaining : remaining.nanoseconds ≠ 0) (later : Watch) :
    sleep remaining (true :: later) =
      ⟨.asked true :: .slept (firstSlice remaining) ::
        (sleep (behindSlice remaining) later).actions,
        (sleep (behindSlice remaining) later).rest⟩ := by
  rw [sleep, if_neg hremaining]
  rfl

/-- A sleep is broken off when the parent is gone. -/
theorem sleep_of_gone (hremaining : remaining.nanoseconds ≠ 0) (hwatch : watch.head? ≠ some true) :
    sleep remaining watch = ⟨[.asked false], none⟩ := by
  unfold sleep
  rw [if_neg hremaining]
  split
  · exact absurd rfl hwatch
  · rfl

/-- A complete sleep leaves the answers behind those that it needs. -/
theorem sleep_append_of_some (hrest : (sleep remaining watch).rest = some rest) (more : Watch) :
    sleep remaining (watch ++ more) = ⟨(sleep remaining watch).actions, some (rest ++ more)⟩ := by
  fun_induction sleep remaining watch with
  | case1 remaining watch hzero =>
    cases hrest
    rw [sleep_of_zero hzero]
  | case2 remaining hsome later slice others ih =>
    have hlater : sleep (behindSlice remaining) (later ++ more) =
        ⟨others.actions, some (rest ++ more)⟩ := ih hrest
    rw [List.cons_append, sleep_of_alive hsome, hlater]
    rfl
  | case3 remaining watch hsome hwatch => cases hrest

/-- A sleep that is broken off ends with the answer that breaks it off, and does the same until then
when more answers follow. -/
theorem sleep_append_of_none (hrest : (sleep remaining watch).rest = none) (more : Watch) :
    ∃ front, (sleep remaining watch).actions = front ++ [.asked false] ∧ .asked false ∉ front ∧
      front <+: (sleep remaining (watch ++ more)).actions := by
  fun_induction sleep remaining watch with
  | case1 remaining watch hzero => cases hrest
  | case2 remaining hsome later slice others ih =>
    obtain ⟨front, hactions, halive, hfront⟩ := ih hrest
    rw [List.cons_append, sleep_of_alive hsome]
    refine ⟨.asked true :: .slept slice :: front, ?_, by simpa using halive, ?_⟩
    · change _ :: _ :: others.actions = _
      rw [hactions]
      rfl
    · exact (List.prefix_append_right_inj [_, _]).mpr hfront
  | case3 remaining watch hsome hwatch => exact ⟨[], rfl, by simp, List.nil_prefix⟩

/-- The parent is never found gone in a complete sleep. -/
theorem asked_false_not_mem_sleep (hrest : (sleep remaining watch).rest = some rest) :
    .asked false ∉ (sleep remaining watch).actions := by
  fun_induction sleep remaining watch with
  | case1 remaining watch hzero => exact List.not_mem_nil
  | case2 remaining hsome later slice others ih => simpa using ih hrest
  | case3 remaining watch hsome hwatch => cases hrest

/-! ### Counting slices -/

/-- The number of slices in a sleep of some length. -/
def slices (remaining : Duration) : ℕ :=
  remaining.nanoseconds ⌈/⌉ Duration.nanosPerSecond

theorem slices_of_zero (hzero : remaining.nanoseconds = 0) : slices remaining = 0 := by
  rw [slices, hzero, zero_ceilDiv]

theorem longestSlice_nanoseconds : longestSlice.nanoseconds = Duration.nanosPerSecond := by
  rw [longestSlice, Duration.ofSeconds, Nat.one_mul]

theorem nanosPerSecond_pos : 0 < Duration.nanosPerSecond := by
  rw [Duration.nanosPerSecond]
  exact Nat.succ_pos _

/-- The first slice is as long as a slice can be, or else there is no other one. -/
theorem slices_eq_succ (hremaining : remaining.nanoseconds ≠ 0) :
    slices remaining = slices (behindSlice remaining) + 1 := by
  have hsecond := nanosPerSecond_pos
  unfold slices behindSlice firstSlice
  rw [longestSlice_nanoseconds]
  -- nothing depends on how long a second is, and its nanoseconds are too many to be unfolded
  generalize remaining.nanoseconds = time at hremaining
  generalize Duration.nanosPerSecond = second at hsecond
  rw [Nat.ceilDiv_eq_add_pred_div, Nat.ceilDiv_eq_add_pred_div]
  rcases Nat.le_total time second with hshort | hlong
  · have hone : (time + second - 1) / second = 1 :=
      Nat.div_eq_of_lt_le (by omega) (by omega)
    have hnone : (0 + second - 1) / second = 0 := Nat.div_eq_of_lt (by omega)
    rw [hone, Nat.min_eq_left hshort, Nat.sub_self, hnone]
  · have hsplit : time + second - 1 = (time - second + second - 1) + second := by omega
    rw [Nat.min_eq_right hlong, hsplit, Nat.add_div_right _ hsecond]

/-- How often the parent is asked after. -/
def asks (actions : List Action) : ℕ :=
  actions.countP (· matches .asked _)

theorem asks_append (first second : List Action) :
    asks (first ++ second) = asks first + asks second :=
  List.countP_append

theorem asks_slice (slice : Duration) (others : List Action) :
    asks (.asked true :: .slept slice :: others) = asks others + 1 := by
  simp [asks]

/-- With enough good answers a sleep is complete and takes one of them for each slice. -/
theorem sleep_of_slices_le {times : ℕ} (hslices : slices remaining ≤ times) (rest : Watch) :
    (sleep remaining (Watch.alive times ++ rest)).rest =
        some (Watch.alive (times - slices remaining) ++ rest) ∧
      asks (sleep remaining (Watch.alive times ++ rest)).actions = slices remaining := by
  induction times generalizing remaining with
  | zero =>
    by_cases hzero : remaining.nanoseconds = 0
    · rw [sleep_of_zero hzero, slices_of_zero hzero]
      exact ⟨rfl, rfl⟩
    · rw [slices_eq_succ hzero] at hslices
      exact absurd hslices (Nat.not_succ_le_zero _)
  | succ times ih =>
    by_cases hzero : remaining.nanoseconds = 0
    · rw [sleep_of_zero hzero, slices_of_zero hzero]
      exact ⟨rfl, rfl⟩
    · rw [slices_eq_succ hzero] at hslices ⊢
      obtain ⟨hrest, hasks⟩ := ih (Nat.le_of_succ_le_succ hslices)
      have hwatch : Watch.alive (times + 1) ++ rest = true :: (Watch.alive times ++ rest) := rfl
      rw [hwatch, sleep_of_alive hzero, Nat.add_sub_add_right]
      exact ⟨hrest, by rw [asks_slice, hasks]⟩

/-- With too few good answers a sleep is broken off by the answer behind them. -/
theorem sleep_of_lt_slices {times : ℕ} (hslices : times < slices remaining)
    (hrest : rest.head? ≠ some true) :
    (sleep remaining (Watch.alive times ++ rest)).rest = none ∧
      asks (sleep remaining (Watch.alive times ++ rest)).actions = times + 1 := by
  induction times generalizing remaining with
  | zero =>
    have hsome : remaining.nanoseconds ≠ 0 := fun hzero ↦
      Nat.not_lt_zero _ (slices_of_zero hzero ▸ hslices)
    have hwatch : Watch.alive 0 ++ rest = rest := rfl
    rw [hwatch, sleep_of_gone hsome hrest]
    exact ⟨rfl, rfl⟩
  | succ times ih =>
    have hsome : remaining.nanoseconds ≠ 0 := fun hzero ↦
      Nat.not_lt_zero _ (slices_of_zero hzero ▸ hslices)
    rw [slices_eq_succ hsome] at hslices
    obtain ⟨hnone, hasks⟩ := ih (Nat.lt_of_succ_lt_succ hslices)
    have hwatch : Watch.alive (times + 1) ++ rest = true :: (Watch.alive times ++ rest) := rfl
    rw [hwatch, sleep_of_alive hsome]
    exact ⟨hnone, by rw [asks_slice, hasks]⟩

end SocketMetrics.Collector
