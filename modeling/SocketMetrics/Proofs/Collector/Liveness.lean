import SocketMetrics.Proofs.Collector.Course
/-!
# How long a collector outlives its parent

Over streams that never fail, what a run does is known from its interval and from the number of
questions to which the parent was found alive (`Account`): a question is spent on every pass and on
every slice of a sleep, and the next one ends the run. A pass with the sleep behind it takes one
question more than the interval has slices, so the passes are as many as the good answers divided by
that, and the last one counts although its sleep is broken off (`run_of_alive`).
-/

set_option autoImplicit false
set_option relaxedAutoImplicit false

namespace SocketMetrics.Collector

open Number Channel

/-! ### Counting along a trace -/

theorem questions_eq_asks (run : Run) : run.questions = asks run.actions := by
  rw [asks, Run.actions, List.countP_map]
  rfl

/-- A lap adds its question, its pass and its sleep to the actions behind it. -/
theorem actions_after_lap (collector : Collector) (streams : Streams) (step : Step)
    (slept : List Action) (log : List Log.Record) (run : Run) :
    (run.after log (lapMoments collector streams step slept)).actions =
      .asked true :: .began :: (slept ++ run.actions) := by
  rw [actions_after, lapMoments, List.map_append, map_action_moments, map_action_moments]
  rfl

theorem asks_lap (slept : List Action) :
    asks (.asked true :: .began :: slept) = asks slept + 1 := by
  simp [asks]

theorem count_began_lap {slept : List Action} (hslept : .began ∉ slept) :
    (Action.asked true :: .began :: slept).count .began = 1 := by
  rw [List.count_cons_of_ne (by decide), List.count_cons_self, List.count_eq_zero.mpr hslept]

/-- As many laps as it takes to spend so many good answers. -/
theorem ceilDiv_of_le {times slices : ℕ} (hslices : slices ≤ times) :
    (times + 1) ⌈/⌉ (1 + slices) = 1 + (times - slices) ⌈/⌉ (1 + slices) := by
  rw [Nat.ceilDiv_eq_add_pred_div, Nat.ceilDiv_eq_add_pred_div]
  have hsplit : times + 1 + (1 + slices) - 1 =
      (times - slices + (1 + slices) - 1) + (1 + slices) := by omega
  rw [hsplit, Nat.add_div_right _ (by omega), Nat.add_comm]

/-- The good answers do not suffice for a second lap. -/
theorem ceilDiv_of_lt {times slices : ℕ} (hslices : times < slices) :
    (times + 1) ⌈/⌉ (1 + slices) = 1 := by
  rw [Nat.ceilDiv_eq_add_pred_div]
  exact Nat.div_eq_of_lt_le (by omega) (by omega)

/-! ### Streams that never fail -/

/-- A pass over streams that never fail succeeds and leaves such streams. -/
theorem runOnce_of_neverFail (collector : Collector) (clock : Clock) {streams : Streams}
    (hstreams : streams.NeverFail) :
    (collector.runOnce clock streams).streams.NeverFail ∧
      ∃ report, (collector.runOnce clock streams).outcome = .ok report := by
  have hpass := Pass.run_eq_of_neverFail collector.sources (clock collector.passes)
    collector.pageSize hstreams
  have hnext := Pass.neverFail_finalEmitter collector.sources (clock collector.passes)
    collector.pageSize hstreams
  refine ⟨?_, _, congrArg Pass.outcome hpass⟩
  have hstep : (collector.runOnce clock streams).streams = _ := congrArg Pass.streams hpass
  rw [hstep]
  exact hnext

/-- What a run has done whose parent was found alive so many times and then gone. -/
structure Account (collector : Collector) (times : ℕ) (run : Run) : Prop where
  outcome_eq : run.outcome = .ok .parentGone
  questions_eq : run.questions = times + 1
  passes_eq : run.collector.passes =
    collector.passes + times ⌈/⌉ (1 + slices collector.interval)
  begun_eq : run.actions.count .began = times ⌈/⌉ (1 + slices collector.interval)
  /-- Nothing follows the first bad answer. -/
  ends : ∃ front, run.actions = front ++ [.asked false] ∧ .asked false ∉ front

/-- A watch that begins with a good answer has one less behind it. -/
theorem alive_append_eq_cons {times : ℕ} {later rest : Watch} (hrest : rest.head? ≠ some true)
    (hwatch : true :: later = Watch.alive times ++ rest) :
    ∃ others, times = others + 1 ∧ later = Watch.alive others ++ rest := by
  cases times with
  | zero =>
    have hbegins : rest = true :: later := hwatch.symm
    exact absurd (congrArg List.head? hbegins) hrest
  | succ others => exact ⟨others, rfl, (List.cons.inj hwatch).2⟩

section Laps

variable {clock : Clock} {collector : Collector} {streams : Streams} {step : Step}
  {report : Pass.Report} {rest : Watch} {times : ℕ}

/-- The account of a run whose parent is gone from the beginning. -/
theorem account_parentGone (collector : Collector) (streams : Streams) :
    Account collector 0 ((parentGone collector streams).after []
      (moments collector streams [.asked false])) where
  outcome_eq := rfl
  questions_eq := rfl
  passes_eq := by
    rw [zero_ceilDiv]
    rfl
  begun_eq := by
    rw [zero_ceilDiv]
    rfl
  ends := ⟨[], rfl, List.not_mem_nil⟩

/-- The account of a run whose first sleep is broken off. -/
theorem account_wokenUp (hstep : collector.runOnce clock streams = step)
    (hreport : step.outcome = .ok report) (hslices : times < slices collector.interval)
    (hrest : rest.head? ≠ some true) (log : List Log.Record) :
    Account collector (times + 1) ((parentGone step.collector step.streams).after log
      (lapMoments collector streams step
        (sleep collector.interval (Watch.alive times ++ rest)).actions)) := by
  subst hstep
  obtain ⟨hnone, hasks⟩ := sleep_of_lt_slices hslices hrest
  obtain ⟨front, hfront, halive, -⟩ := sleep_append_of_none hnone []
  have hbegan := began_not_mem_sleep collector.interval (Watch.alive times ++ rest)
  constructor
  · rfl
  · rw [questions_eq_asks, actions_after_lap, actions_parentGone, List.append_nil, asks_lap, hasks]
  · rw [ceilDiv_of_lt hslices]
    exact passes_runOnce_of_ok hreport
  · rw [actions_after_lap, actions_parentGone, List.append_nil, count_began_lap hbegan,
      ceilDiv_of_lt hslices]
  · refine ⟨.asked true :: .began :: front, ?_, by simpa using halive⟩
    rw [actions_after_lap, actions_parentGone, List.append_nil, hfront]
    rfl

/-- The account of a run behind a complete lap. -/
theorem Account.lap {run : Run} (hstep : collector.runOnce clock streams = step)
    (hreport : step.outcome = .ok report) (hslices : slices collector.interval ≤ times)
    (hlater : Account step.collector (times - slices collector.interval) run)
    (log : List Log.Record) :
    Account collector (times + 1) (run.after log (lapMoments collector streams step
      (sleep collector.interval (Watch.alive times ++ rest)).actions)) := by
  subst hstep
  obtain ⟨hsome, hasks⟩ := sleep_of_slices_le hslices rest
  have hbegan := began_not_mem_sleep collector.interval (Watch.alive times ++ rest)
  have halive := asked_false_not_mem_sleep hsome
  constructor
  · exact hlater.outcome_eq
  · rw [questions_eq_asks, actions_after_lap, asks_lap, asks_append, hasks, ← questions_eq_asks,
      hlater.questions_eq]
    omega
  · rw [ceilDiv_of_le hslices, ← Nat.add_assoc, ← passes_runOnce_of_ok hreport]
    exact hlater.passes_eq
  · rw [actions_after_lap, ← List.cons_append, ← List.cons_append, List.count_append,
      count_began_lap hbegan, hlater.begun_eq, ceilDiv_of_le hslices]
    rfl
  · obtain ⟨front, hfront, hnever⟩ := hlater.ends
    rw [actions_after_lap, hfront, ← List.append_assoc]
    exact ⟨.asked true :: .began :: (_ ++ front), rfl, by simpa [halive] using hnever⟩

end Laps

/-- A loop whose parent was found alive so many times gives the account of them. -/
theorem Course.account {clock : Clock} {collector : Collector} {streams : Streams} {watch : Watch}
    {run : Run} (hcourse : Course clock collector streams watch run)
    (hstreams : streams.NeverFail) {times : ℕ} {rest : Watch} (hrest : rest.head? ≠ some true)
    (hwatch : watch = Watch.alive times ++ rest) : Account collector times run := by
  -- every lap spends answers, so the number of those that are left changes with the lap
  induction hcourse generalizing times with
  | @parentGone collector streams watch hgone =>
    cases times with
    | zero => exact account_parentGone collector streams
    | succ others =>
      rw [hwatch] at hgone
      exact absurd rfl hgone
  | @failed collector streams later step fault hstep hfault =>
    subst hstep
    obtain ⟨-, report, hreport⟩ := collector.runOnce_of_neverFail clock hstreams
    rw [hreport] at hfault
    cases hfault
  | @wokenUp collector streams later step report log hstep hreport hnone =>
    obtain ⟨others, rfl, rfl⟩ := alive_append_eq_cons hrest hwatch
    rcases Nat.lt_or_ge others (slices collector.interval) with hslices | hslices
    · exact account_wokenUp hstep hreport hslices hrest log
    · rw [(sleep_of_slices_le hslices rest).1] at hnone
      cases hnone
  | @lap collector streams later _ step report log run hstep hreport hsome hnext ih =>
    obtain ⟨others, rfl, rfl⟩ := alive_append_eq_cons hrest hwatch
    rcases Nat.lt_or_ge others (slices collector.interval) with hslices | hslices
    · rw [(sleep_of_lt_slices hslices hrest).1] at hsome
      cases hsome
    · rw [(sleep_of_slices_le hslices rest).1] at hsome
      have hbehind := (collector.runOnce_of_neverFail clock hstreams).1
      rw [hstep] at hbehind
      exact (ih hbehind (Option.some.inj hsome).symm).lap hstep hreport hslices log

/-- A run over streams that never fail ends because its parent is gone, after one question more than
were answered well, and begins and completes as many passes as these answers allow. -/
theorem run_of_alive (collector : Collector) (clock : Clock) {streams : Streams}
    (hstreams : streams.NeverFail) (times : ℕ) {rest : Watch} (hrest : rest.head? ≠ some true) :
    Account collector times (collector.run clock streams (Watch.alive times ++ rest)) := by
  obtain ⟨run, hcourse, hrun⟩ := collector.run_course clock streams (Watch.alive times ++ rest)
  have haccount := hcourse.account hstreams hrest rfl
  rw [hrun]
  exact ⟨haccount.outcome_eq, haccount.questions_eq, haccount.passes_eq, haccount.begun_eq,
    haccount.ends⟩

/-- An interval of a second and a half has a whole slice and half of one, so that five good answers
suffice for two passes and break off the sleep behind the second one. -/
theorem two_passes_in_five_answers :
    let collector := ofSources ⟨.constant .empty, .constant .empty⟩ ⟨1500000000⟩ 4096
    let run := collector.run (fun _ ↦ 0) .unbounded (Watch.alive 5 ++ [false, true])
    run.outcome = .ok .parentGone ∧ run.questions = 6 ∧ run.collector.passes = 2 ∧
      run.actions.count .began = 2 := by
  intro collector run
  have hstreams : Streams.unbounded.NeverFail := ⟨⟨rfl, rfl⟩, ⟨rfl, rfl⟩⟩
  have hslices : slices ⟨1500000000⟩ = 2 := by
    simp [slices, Duration.nanosPerSecond, Nat.ceilDiv_eq_add_pred_div]
  have haccount : Account collector 5 run :=
    collector.run_of_alive (fun _ ↦ 0) hstreams 5 (by decide)
  have hpasses : 5 ⌈/⌉ (1 + slices collector.interval) = 2 := by
    change 5 ⌈/⌉ (1 + slices ⟨1500000000⟩) = 2
    rw [hslices]
    rfl
  refine ⟨haccount.outcome_eq, haccount.questions_eq, ?_, ?_⟩
  · rw [haccount.passes_eq, hpasses]
    rfl
  · rw [haccount.begun_eq, hpasses]

end SocketMetrics.Collector
