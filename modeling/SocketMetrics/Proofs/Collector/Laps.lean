import Mathlib.Data.List.Infix
import SocketMetrics.Collector.Loop
import SocketMetrics.Proofs.Pass.Delivery
/-!
# Laps of the collection loop

A run is a row of laps: a question, a pass and a sleep, over and over, until the parent is gone or
a stream fails. `Laps` describes the actions of such a row without the state of the collector, and
`loop_laps` shows that every run has this form. With an interval above zero each sleep begins with
a question and a slice, so a slice stands between any two passes (`Laps.sleepsBetweenPasses`). With
an interval of zero there is nothing between two passes but the question whether to go on
(`loop_actions_of_zero`).
-/

set_option autoImplicit false
set_option relaxedAutoImplicit false

namespace SocketMetrics.Collector

open Number Channel

/-- The actions of a run. -/
def Run.actions (run : Run) : List Action :=
  run.trace.map Moment.action

@[simp] theorem actions_after (log : List Log.Record) (trace : List Moment) (run : Run) :
    (run.after log trace).actions = trace.map Moment.action ++ run.actions :=
  List.map_append ..

@[simp] theorem actions_parentGone (collector : Collector) (streams : Streams) :
    (parentGone collector streams).actions = [] := rfl

@[simp] theorem map_action_moments (collector : Collector) (streams : Streams)
    (actions : List Action) : (moments collector streams actions).map Moment.action = actions := by
  simp [moments, Function.comp_def]

/-! ### Sleeping -/

/-- Nothing is slept when there is no time to sleep. -/
theorem sleep_of_zero {remaining : Duration} (hzero : remaining.nanoseconds = 0) (watch : Watch) :
    sleep remaining watch = ⟨[], some watch⟩ := by
  unfold sleep
  rw [if_pos hzero]

/-- No pass begins during a sleep. -/
theorem began_not_mem_sleep (remaining : Duration) (watch : Watch) :
    Action.began ∉ (sleep remaining watch).actions := by
  induction watch generalizing remaining with
  | nil =>
    unfold sleep
    split <;> simp
  | cons alive later ih =>
    unfold sleep
    cases alive
    · split <;> simp
    · split
      · simp
      · simpa using ih _

/-- A length of time that is slept without interruption. -/
def IsSlice (slice : Duration) : Prop :=
  0 < slice.nanoseconds ∧ slice.nanoseconds ≤ longestSlice.nanoseconds

/-- A complete sleep of some length begins with a question and a slice. -/
theorem sleep_begins {remaining : Duration} {watch rest : Watch}
    (hremaining : 0 < remaining.nanoseconds) (hrest : (sleep remaining watch).rest = some rest) :
    ∃ slice others, IsSlice slice ∧
      (sleep remaining watch).actions = .asked true :: .slept slice :: others := by
  have hsome : remaining.nanoseconds ≠ 0 := Nat.ne_of_gt hremaining
  unfold sleep at hrest ⊢
  rw [if_neg hsome] at hrest ⊢
  cases watch with
  | nil => simp at hrest
  | cons alive later =>
    cases alive
    · simp at hrest
    · refine ⟨⟨min remaining.nanoseconds longestSlice.nanoseconds⟩, _, ⟨?_, ?_⟩, rfl⟩
      · exact Nat.lt_min.mpr ⟨hremaining, by decide⟩
      · exact Nat.min_le_right _ _

/-! ### Laps -/

/-- What a loop with the given interval does as long as the watch lets it, pass after pass. -/
inductive Laps (interval : Duration) : Watch → List Action → Prop where
  /-- The parent is gone before a pass. -/
  | parentGone {watch : Watch} (hwatch : watch.head? ≠ some true) :
      Laps interval watch [.asked false]
  /-- A stream fails in a pass. -/
  | failed (later : Watch) : Laps interval (true :: later) [.asked true, .began]
  /-- The parent is gone during a sleep. -/
  | wokenUp {later : Watch} (hrest : (sleep interval later).rest = none) :
      Laps interval (true :: later) (.asked true :: .began :: (sleep interval later).actions)
  /-- A pass and a sleep are complete. -/
  | lap {later rest : Watch} {actions : List Action}
      (hrest : (sleep interval later).rest = some rest) (hlaps : Laps interval rest actions) :
      Laps interval (true :: later)
        (.asked true :: .began :: ((sleep interval later).actions ++ actions))

/-- The loop runs in laps. -/
theorem loop_laps (clock : Clock) (collector : Collector) (streams : Streams) (watch : Watch) :
    Laps collector.interval watch (loop clock collector streams watch).actions := by
  fun_induction loop clock collector streams watch with
  | case1 collector streams later before step fault hfault =>
    exact .failed later
  | case2 collector streams later before step report hreport log slept during hrest =>
    rw [actions_after, actions_parentGone, List.append_nil, List.map_append, map_action_moments,
      map_action_moments]
    exact .wokenUp hrest
  | case3 collector streams later before step report hreport log slept during rest hrest ih =>
    rw [actions_after, List.map_append, map_action_moments, map_action_moments]
    exact .lap hrest ih
  | case4 collector streams watch hwatch =>
    refine .parentGone fun halive ↦ ?_
    obtain ⟨later, rfl⟩ := List.head?_eq_some_iff.mp halive
    exact hwatch later rfl

/-! ### Between two passes -/

/-- Between any two passes the parent is found alive and a slice of a sleep follows at once. -/
def SleepsBetweenPasses (actions : List Action) : Prop :=
  ∀ before between later, actions = before ++ .began :: (between ++ .began :: later) →
    ∃ slice, IsSlice slice ∧ [.asked true, .slept slice] <:+: between

theorem two_le_count_began (before between later : List Action) :
    2 ≤ (before ++ .began :: (between ++ .began :: later)).count .began := by
  simp only [List.count_append, List.count_cons_self]
  omega

/-- An item of two stretches is in one of them. -/
theorem append_eq_append_cons {α : Type} {first second before after : List α} {item : α}
    (heq : first ++ second = before ++ item :: after) :
    (∃ others, first = before ++ item :: others) ∨
      ∃ others, before = first ++ others ∧ second = others ++ item :: after := by
  rcases List.append_eq_append_iff.mp heq with hsecond | ⟨others, hfirst, hothers⟩
  · exact .inr hsecond
  · cases others with
    | nil => exact .inr ⟨[], by simpa using hfirst.symm, by simpa using hothers.symm⟩
    | cons head others =>
      rw [List.cons_append, List.cons.injEq] at hothers
      obtain ⟨rfl, -⟩ := hothers
      exact .inl ⟨others, hfirst⟩

/-- A pass behind a stretch without passes is behind all of it. -/
theorem append_eq_append_began {stretch rest before later : List Action}
    (hstretch : Action.began ∉ stretch) (heq : stretch ++ rest = before ++ .began :: later) :
    ∃ others, before = stretch ++ others ∧ rest = others ++ .began :: later := by
  rcases append_eq_append_cons heq with ⟨others, hwhole⟩ | hothers
  · exact absurd (by simp [hwhole]) hstretch
  · exact hothers

/-- Laps with an interval above zero have a slice between any two passes. -/
theorem Laps.sleepsBetweenPasses {interval : Duration} {watch : Watch} {actions : List Action}
    (hlaps : Laps interval watch actions) (hinterval : 0 < interval.nanoseconds) :
    SleepsBetweenPasses actions := by
  induction hlaps with
  | parentGone hwatch =>
    intro before between later heq
    have htwo := two_le_count_began before between later
    rw [← heq] at htwo
    exact absurd htwo (by decide)
  | failed later =>
    intro before between after heq
    have htwo := two_le_count_began before between after
    rw [← heq] at htwo
    exact absurd htwo (by decide)
  | @wokenUp later hrest =>
    intro before between after heq
    have hsleep := List.count_eq_zero.mpr (began_not_mem_sleep interval later)
    have hone : (Action.asked true :: .began :: (sleep interval later).actions).count .began = 1 := by
      simp [hsleep]
    have htwo := two_le_count_began before between after
    rw [← heq, hone] at htwo
    exact absurd htwo (by decide)
  | @lap later rest actions hrest hlaps ih =>
    intro before between after heq
    have hsleep := began_not_mem_sleep interval later
    match before with
    | [] => cases heq
    | [_] =>
      obtain ⟨-, heq⟩ := List.cons.inj heq
      obtain ⟨-, heq⟩ := List.cons.inj heq
      obtain ⟨others, rfl, -⟩ := append_eq_append_began hsleep heq
      obtain ⟨slice, more, hslice, hbegins⟩ := sleep_begins hinterval hrest
      refine ⟨slice, hslice, ?_⟩
      rw [hbegins]
      exact (List.prefix_append [.asked true, .slept slice] (more ++ others)).isInfix
    | _ :: _ :: before =>
      obtain ⟨-, heq⟩ := List.cons.inj heq
      obtain ⟨-, heq⟩ := List.cons.inj heq
      obtain ⟨others, rfl, hothers⟩ := append_eq_append_began hsleep heq
      exact ih others between after hothers

/-- A run has the actions of its loop. -/
theorem actions_run (collector : Collector) (clock : Clock) (streams : Streams) (watch : Watch) :
    (run collector clock streams watch).actions =
      (loop clock { collector with state := .running } streams watch).actions := by
  rw [run, actions_after, List.map_nil, List.nil_append]

/-- A run runs in laps. -/
theorem run_laps (collector : Collector) (clock : Clock) (streams : Streams) (watch : Watch) :
    Laps collector.interval watch (run collector clock streams watch).actions := by
  rw [actions_run]
  exact loop_laps clock { collector with state := .running } streams watch

/-! ### An interval of zero -/

/-- With an interval of zero, passes over streams that never fail follow each other as long as the
parent is found alive. -/
theorem loop_actions_of_zero (clock : Clock) (collector : Collector) {streams : Streams}
    (hinterval : collector.interval.nanoseconds = 0) (hstreams : streams.NeverFail) (times : ℕ) :
    (loop clock collector streams (Watch.alive times)).actions =
      (List.replicate times [.asked true, .began]).flatten ++ [.asked false] := by
  induction times generalizing collector streams with
  | zero =>
    have hgone : loop clock collector streams (Watch.alive 0) =
        (parentGone collector streams).after [] (moments collector streams [.asked false]) := by
      unfold loop
      rfl
    rw [hgone, actions_after, map_action_moments]
    rfl
  | succ times ih =>
    have hpass := Pass.run_eq_of_neverFail collector.sources (clock collector.passes)
      collector.pageSize hstreams
    have hnext := Pass.neverFail_finalEmitter collector.sources (clock collector.passes)
      collector.pageSize hstreams
    rw [Watch.alive, List.replicate_succ, ← Watch.alive]
    unfold loop
    simp only [runOnce, hpass]
    split
    · next hgone =>
      rw [sleep_of_zero hinterval] at hgone
      cases hgone
    · next rest hrest =>
      rw [sleep_of_zero hinterval] at hrest
      obtain rfl := Option.some.inj hrest
      rw [actions_after, ih _ ?_ hnext, List.map_append, map_action_moments, map_action_moments,
        sleep_of_zero hinterval]
      · simp [List.replicate_succ]
      · exact hinterval

end SocketMetrics.Collector
