import SocketMetrics.Collector.Turn
import SocketMetrics.Proofs.Collector.Course
/-!
# The loop by turns

A collector that takes turns does what its run does. `recorder` is a host that answers by a watch
and records what happens. Over it a turn has one of four results (`turn_of_gone`, `turn_of_slice`,
`turn_of_fault` and `turn_of_report`), which are the branches of the loop and of the sleep. So the
turns go through a sleep slice by slice (`turns_of_wokenUp`, `exists_turns_of_sleep`) and through
the loop lap by lap (`turns_of_loop`). `turns_of_run` is the result: turns over the answers of a
watch lead to the collector, the streams, the outcome, the log and the actions of the run.

A turn uses up one answer, so that with a watch of finite length the turns come to an end.
-/

set_option autoImplicit false
set_option relaxedAutoImplicit false

namespace SocketMetrics.Collector

open Number Channel

/-- The answers that are still to come and the streams as they are, and what has been logged and done
so far. -/
structure Recording where
  watch : Watch
  streams : Streams
  log : List Log.Record
  actions : List Action

/-- The host that answers by a watch and records what happens. -/
def recorder (clock : Clock) : Host (StateM Recording) where
  ask now :=
    let alive := now.watch.head?.getD false
    (alive, { now with watch := now.watch.tail, actions := now.actions ++ [.asked alive] })
  sleep slice now := ((), { now with actions := now.actions ++ [.slept slice] })
  pass collector now :=
    let step := collector.runOnce clock now.streams
    (step, { now with streams := step.streams, actions := now.actions ++ [.began] })
  log records now := ((), { now with log := now.log ++ records })

section Recorder

variable (clock : Clock) (now : Recording)

@[simp] theorem run_recorder_ask :
    (recorder clock).ask.run now =
      pure (now.watch.head?.getD false,
        { now with
          watch := now.watch.tail
          actions := now.actions ++ [.asked (now.watch.head?.getD false)] }) := rfl

@[simp] theorem run_recorder_sleep (slice : Duration) :
    ((recorder clock).sleep slice).run now =
      pure ((), { now with actions := now.actions ++ [.slept slice] }) := rfl

@[simp] theorem run_recorder_pass (collector : Collector) :
    ((recorder clock).pass collector).run now =
      pure (collector.runOnce clock now.streams,
        { now with
          streams := (collector.runOnce clock now.streams).streams
          actions := now.actions ++ [.began] }) := rfl

@[simp] theorem run_recorder_log (records : List Log.Record) :
    ((recorder clock).log records).run now =
      pure ((), { now with log := now.log ++ records }) := rfl

end Recorder

/-- Takes turns until one of them ends or so many are taken. -/
def turns {m : Type → Type} [Monad m] (host : Host m) :
    ℕ → Collector → Duration → m Outlook
  | 0, collector, remaining => return .goesOn collector remaining
  | limit + 1, collector, remaining => do
    match ← turn host collector remaining with
    | .goesOn collector remaining => turns host limit collector remaining
    | ending => return ending

/-! ### A turn -/

section Turn

variable {clock : Clock} {collector : Collector} {remaining : Duration} {watch later : Watch}
  {streams : Streams} {log : List Log.Record} {actions : List Action}

theorem turn_of_gone (hwatch : ∀ later, watch ≠ true :: later) :
    (turn (recorder clock) collector remaining).run ⟨watch, streams, log, actions⟩ =
      pure (.ends (parentGone collector streams).collector (parentGone collector streams).outcome,
        ⟨watch.tail, streams, log ++ (parentGone collector streams).log,
          actions ++ [.asked false]⟩) := by
  have halive : watch.head?.getD false = false := by
    match watch with
    | [] => rfl
    | false :: later => rfl
    | true :: later => exact absurd rfl (hwatch later)
  simp [turn, halive, parentGone]

/-- A slice of a sleep. -/
theorem turn_of_slice (hremaining : remaining.nanoseconds ≠ 0) :
    let slice : Duration := ⟨min remaining.nanoseconds longestSlice.nanoseconds⟩
    (turn (recorder clock) collector remaining).run ⟨true :: later, streams, log, actions⟩ =
      pure (.goesOn collector ⟨remaining.nanoseconds - slice.nanoseconds⟩,
        ⟨later, streams, log, actions ++ [.asked true] ++ [.slept slice]⟩) := by
  simp [turn, hremaining]

/-- A pass in which a stream fails. -/
theorem turn_of_fault (hremaining : remaining.nanoseconds = 0) {step : Step} {fault : Fault}
    (hstep : collector.runOnce clock streams = step) (hfault : step.outcome = .error fault) :
    (turn (recorder clock) collector remaining).run ⟨true :: later, streams, log, actions⟩ =
      pure (.ends step.collector (.error fault),
        ⟨later, step.streams, log ++ step.log, actions ++ [.asked true] ++ [.began]⟩) := by
  simp [turn, hremaining, hstep, hfault]

/-- A pass that succeeds. -/
theorem turn_of_report (hremaining : remaining.nanoseconds = 0) {step : Step}
    {report : Pass.Report} (hstep : collector.runOnce clock streams = step)
    (hreport : step.outcome = .ok report) :
    (turn (recorder clock) collector remaining).run ⟨true :: later, streams, log, actions⟩ =
      pure (.goesOn step.collector collector.interval,
        ⟨later, step.streams, log ++ step.log ++ [passRecord step.collector.passes report],
          actions ++ [.asked true] ++ [.began]⟩) := by
  simp [turn, hremaining, hstep, hreport]

end Turn

/-! ### Turn after turn -/

section Turns

variable {clock : Clock} {collector next : Collector} {remaining due : Duration}
  {now later : Recording} {limit : ℕ}

theorem turns_of_goesOn
    (hturn : (turn (recorder clock) collector remaining).run now = pure (.goesOn next due, later)) :
    (turns (recorder clock) (limit + 1) collector remaining).run now =
      (turns (recorder clock) limit next due).run later := by
  simp [turns, hturn]

theorem turns_of_ends {outcome : Except Fault Termination}
    (hturn : (turn (recorder clock) collector remaining).run now =
      pure (.ends next outcome, later)) :
    (turns (recorder clock) (limit + 1) collector remaining).run now =
      pure (.ends next outcome, later) := by
  simp [turns, hturn]

end Turns

section Loop

variable {clock : Clock} {collector : Collector} {remaining : Duration} {watch rest : Watch}
  {streams : Streams} {log : List Log.Record} {actions : List Action} {limit : ℕ}

/-- The turns lead to the end of a run, of which the log and the actions are added. -/
def LeadTo (run : Run) (log : List Log.Record) (actions : List Action)
    (result : Id (Outlook × Recording)) : Prop :=
  ∃ rest, result = pure (.ends run.collector run.outcome,
    ⟨rest, run.streams, log ++ run.log, actions ++ run.actions⟩)

theorem leadTo_after {run : Run} {more : List Log.Record} {trace : List Moment}
    {result : Id (Outlook × Recording)} :
    LeadTo (run.after more trace) log actions result ↔
      LeadTo run (log ++ more) (actions ++ trace.map Moment.action) result := by
  simp [LeadTo, Run.after, Run.actions]

/-- The actions of a lap stand in front of those of the run behind it. -/
theorem leadTo_lap {run : Run} {step : Step} {records : List Log.Record} {slept : List Action}
    {result : Id (Outlook × Recording)} :
    LeadTo (run.after records (lapMoments collector streams step slept)) log actions result ↔
      LeadTo run (log ++ records) (actions ++ [.asked true] ++ [.began] ++ slept) result := by
  rw [leadTo_after, lapMoments, List.map_append, map_action_moments, map_action_moments]
  simp

theorem turns_of_gone (hwatch : ∀ later, watch ≠ true :: later) (hlimit : 0 < limit) :
    LeadTo (parentGone collector streams) log (actions ++ [.asked false])
      ((turns (recorder clock) limit collector remaining).run ⟨watch, streams, log, actions⟩) := by
  obtain ⟨limit, rfl⟩ := Nat.exists_eq_add_one.mpr hlimit
  rw [turns_of_ends (turn_of_gone hwatch)]
  refine ⟨watch.tail, ?_⟩
  rw [actions_parentGone, List.append_nil]
  rfl

/-- A sleep during which the parent goes is taken slice by slice. -/
theorem turns_of_wokenUp (hrest : (sleep remaining watch).rest = none) :
    ∀ actions limit, watch.length < limit →
      LeadTo (parentGone collector streams) log (actions ++ (sleep remaining watch).actions)
        ((turns (recorder clock) limit collector remaining).run ⟨watch, streams, log, actions⟩) := by
  fun_induction sleep remaining watch with
  | case1 watch remaining hzero => cases hrest
  | case2 remaining hremaining later slice others ih =>
    intro actions limit hlimit
    obtain ⟨limit, rfl⟩ := Nat.exists_eq_add_one.mpr (Nat.zero_lt_of_lt hlimit)
    rw [turns_of_goesOn (turn_of_slice hremaining)]
    have hothers := ih hrest (actions ++ [.asked true] ++ [.slept slice]) limit
      (Nat.lt_of_succ_lt_succ hlimit)
    simpa using hothers
  | case3 watch remaining hremaining hwatch =>
    exact fun actions limit hlimit ↦ turns_of_gone hwatch (Nat.zero_lt_of_lt hlimit)

/-- A complete sleep is taken slice by slice, and then the next pass is due. -/
theorem exists_turns_of_sleep (hrest : (sleep remaining watch).rest = some rest) :
    ∀ actions limit, watch.length < limit → ∃ fewer, rest.length < fewer ∧
      (turns (recorder clock) limit collector remaining).run ⟨watch, streams, log, actions⟩ =
        (turns (recorder clock) fewer collector ⟨0⟩).run
          ⟨rest, streams, log, actions ++ (sleep remaining watch).actions⟩ := by
  fun_induction sleep remaining watch with
  | case1 watch remaining hzero =>
    cases hrest
    obtain rfl : remaining = ⟨0⟩ := congrArg Duration.mk hzero
    exact fun actions limit hlimit ↦ ⟨limit, hlimit, by rw [List.append_nil]⟩
  | case2 remaining hremaining later slice others ih =>
    intro actions limit hlimit
    obtain ⟨limit, rfl⟩ := Nat.exists_eq_add_one.mpr (Nat.zero_lt_of_lt hlimit)
    rw [turns_of_goesOn (turn_of_slice hremaining)]
    obtain ⟨fewer, hfewer, hothers⟩ := ih hrest (actions ++ [.asked true] ++ [.slept slice]) limit
      (Nat.lt_of_succ_lt_succ hlimit)
    exact ⟨fewer, hfewer, by simpa using hothers⟩
  | case3 watch remaining hremaining hwatch => cases hrest

/-- Turns over the answers of a watch lead to what the loop leaves behind. -/
theorem turns_of_loop (clock : Clock) (collector : Collector) (streams : Streams) (watch : Watch) :
    ∀ log actions limit, watch.length < limit →
      LeadTo (loop clock collector streams watch) log actions
        ((turns (recorder clock) limit collector ⟨0⟩).run ⟨watch, streams, log, actions⟩) := by
  fun_induction loop clock collector streams watch with
  | case1 collector streams later before step fault hfault =>
    intro log actions limit hlimit
    obtain ⟨limit, rfl⟩ := Nat.exists_eq_add_one.mpr (Nat.zero_lt_of_lt hlimit)
    rw [turns_of_ends (turn_of_fault rfl rfl hfault), List.append_assoc]
    exact ⟨later, rfl⟩
  | case2 collector streams later before step report hreport records slept during hrest =>
    intro log actions limit hlimit
    obtain ⟨limit, rfl⟩ := Nat.exists_eq_add_one.mpr (Nat.zero_lt_of_lt hlimit)
    rw [turns_of_goesOn (turn_of_report rfl rfl hreport), List.append_assoc log]
    exact leadTo_lap.mpr (turns_of_wokenUp hrest _ limit (Nat.lt_of_succ_lt_succ hlimit))
  | case3 collector streams later before step report hreport records slept during rest hrest ih =>
    intro log actions limit hlimit
    obtain ⟨limit, rfl⟩ := Nat.exists_eq_add_one.mpr (Nat.zero_lt_of_lt hlimit)
    rw [turns_of_goesOn (turn_of_report rfl rfl hreport), List.append_assoc log]
    -- the sleep takes turns as well, and leaves enough of them for the laps behind it
    obtain ⟨fewer, hfewer, hslept⟩ :=
      exists_turns_of_sleep hrest _ limit (Nat.lt_of_succ_lt_succ hlimit)
    rw [hslept]
    exact leadTo_lap.mpr (ih _ _ fewer hfewer)
  | case4 collector streams watch hwatch =>
    intro log actions limit hlimit
    rw [leadTo_after, List.append_nil]
    exact turns_of_gone hwatch (Nat.zero_lt_of_lt hlimit)

/-- **A run by turns.** A collector that has logged its start and takes more turns than a watch has
answers comes to the end of its run, and has done and logged the same. -/
theorem turns_of_run (collector : Collector) (clock : Clock) (streams : Streams) (watch : Watch)
    (hlimit : watch.length < limit) :
    let running := { collector with state := .running }
    let run := collector.run clock streams watch
    ∃ rest,
      (turns (recorder clock) limit running ⟨0⟩).run ⟨watch, streams, [running.startRecord], []⟩ =
        pure (.ends run.collector run.outcome, ⟨rest, run.streams, run.log, run.actions⟩) := by
  intro running run
  have hloop := turns_of_loop clock running streams watch [running.startRecord] [] limit hlimit
  have hrun : LeadTo run [] []
      ((turns (recorder clock) limit running ⟨0⟩).run ⟨watch, streams, [running.startRecord], []⟩) :=
    leadTo_after.mpr hloop
  exact hrun

end Loop

end SocketMetrics.Collector
