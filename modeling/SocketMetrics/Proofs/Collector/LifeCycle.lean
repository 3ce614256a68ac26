import SocketMetrics.Proofs.Collector.Calls
/-!
# The life cycle of a collector

A run ends in one of two ways, and the state tells which (`Ending`): the parent is gone and the
collector has terminated for that reason, or a pass has failed and the collector is still running,
with the failed pass as the last thing that the run did (`run_ending`). Single passes leave the
state alone. `lifeCycle` draws the consequences for a collector that was built over open sources and
has served any calls: the counter is exact and never falls, the state tells how far the collector
has come, and the termination that is reserved for sources that cannot be opened does not occur.
-/

set_option autoImplicit false
set_option relaxedAutoImplicit false

namespace SocketMetrics.Collector

open Number Channel

/-! ### The end of a run -/

/-- How a run has ended, and the state in which it leaves the collector. -/
structure Ending (clock : Clock) (pageSize : UInt64) (run : Run) : Prop where
  /-- A run that succeeds has terminated because the parent is gone. -/
  of_ok : ∀ {reason : Termination}, run.outcome = .ok reason →
    reason = .parentGone ∧ run.collector.state = .terminated .parentGone
  /-- A run that fails ends in the pass whose fault it has. -/
  of_error : ∀ {fault : Fault}, run.outcome = .error fault →
    run.collector.state = .running ∧
      ∃ before last, run.trace = before ++ [last] ∧ last.action = .began ∧
        (Pass.run last.sources last.streams (clock last.passes) pageSize).outcome = .error fault

theorem Ending.after {clock : Clock} {pageSize : UInt64} {run : Run}
    (hending : Ending clock pageSize run) (log : List Log.Record) (trace : List Moment) :
    Ending clock pageSize (run.after log trace) where
  of_ok := hending.of_ok
  of_error hfault := by
    obtain ⟨hstate, before, last, htrace, hlast⟩ := hending.of_error hfault
    refine ⟨hstate, trace ++ before, last, ?_, hlast⟩
    change trace ++ run.trace = _
    rw [htrace, List.append_assoc]

theorem ending_parentGone (clock : Clock) (pageSize : UInt64) (collector : Collector)
    (streams : Streams) : Ending clock pageSize (parentGone collector streams) where
  of_ok hreason := ⟨(Except.ok.inj hreason).symm, rfl⟩
  of_error hfault := nomatch hfault

/-- A loop of a running collector ends in one of the two ways. -/
theorem Course.ending {clock : Clock} {collector : Collector} {streams : Streams} {watch : Watch}
    {run : Run} (hcourse : Course clock collector streams watch run)
    (hrunning : collector.state = .running) : Ending clock collector.pageSize run := by
  induction hcourse with
  | parentGone hwatch => exact (ending_parentGone ..).after ..
  | @failed collector streams later step fault hstep hfault =>
    subst hstep
    constructor
    · intro reason hreason
      cases hreason
    · intro other hother
      cases hother
      let asked : Moment := ⟨.asked true, collector.sources, streams, collector.passes⟩
      let began : Moment := ⟨.began, collector.sources, streams, collector.passes⟩
      exact ⟨hrunning, [asked], began, rfl, rfl, hfault⟩
  | wokenUp hstep hreport hrest => exact (ending_parentGone ..).after ..
  | lap hstep hreport hrest hnext ih =>
    subst hstep
    exact (ih hrunning).after ..

theorem run_ending (collector : Collector) (clock : Clock) (streams : Streams) (watch : Watch) :
    Ending clock collector.pageSize (collector.run clock streams watch) := by
  obtain ⟨run, hcourse, hrun⟩ := collector.run_course clock streams watch
  rw [hrun]
  exact (hcourse.ending rfl).after ..

/-! ### The state between the calls -/

theorem pageSize_afterCalls (collector : Collector) (calls : List Call) :
    (collector.afterCalls calls).pageSize = collector.pageSize := by
  induction calls generalizing collector with
  | nil => rfl
  | cons call later ih => rw [afterCalls_cons, ih, pageSize_call]

/-- Single passes leave the state as it was. -/
theorem state_afterCalls_of_once {collector : Collector} {calls : List Call}
    (hcalls : ∀ call ∈ calls, ∃ clock streams, call = .once clock streams) :
    (collector.afterCalls calls).state = collector.state := by
  induction calls generalizing collector with
  | nil => rfl
  | cons call later ih =>
    obtain ⟨hcall, hlater⟩ := List.forall_mem_cons.mp hcalls
    obtain ⟨clock, streams, rfl⟩ := hcall
    exact ih hlater

/-- No call terminates a collector for want of its sources. -/
theorem state_call_ne (call : Call) {collector : Collector}
    (hstate : collector.state ≠ .terminated .sourcesUnavailable) :
    (call.collector collector).state ≠ .terminated .sourcesUnavailable := by
  cases call with
  | once clock streams => exact hstate
  | run clock streams watch =>
    have hending := collector.run_ending clock streams watch
    unfold Call.collector
    simp only
    cases houtcome : (collector.run clock streams watch).outcome with
    | ok reason =>
      rw [(hending.of_ok houtcome).2]
      decide
    | error fault =>
      rw [(hending.of_error houtcome).1]
      decide

theorem state_afterCalls_ne {collector : Collector} (calls : List Call)
    (hstate : collector.state ≠ .terminated .sourcesUnavailable) :
    (collector.afterCalls calls).state ≠ .terminated .sourcesUnavailable := by
  induction calls generalizing collector with
  | nil => exact hstate
  | cons call later ih => exact ih (state_call_ne call hstate)

/-- No call takes anything from the counter. -/
theorem passes_le_afterCalls (collector : Collector) (calls : List Call) :
    collector.passes ≤ (collector.afterCalls calls).passes := by
  rw [passes_afterCalls]
  exact Nat.le_add_right _ _

/-! ### All calls -/

/-- Where a collector stands that has served calls since it was built, and what its next call does
to its state. -/
structure LifeCycle (built : Collector) (calls : List Call) : Prop where
  /-- The passes counted are those whose every write and both flushes succeeded. -/
  passes_eq : (built.afterCalls calls).passes =
    (built.passages calls).countP (·.IsComplete built.pageSize)
  /-- The counter never decreases. -/
  passes_le : ∀ {earlier later : List Call}, calls = earlier ++ later →
    (built.afterCalls earlier).passes ≤ (built.afterCalls calls).passes
  /-- The collector is starting up until its first run. -/
  startup : (∀ call ∈ calls, ∃ clock streams, call = .once clock streams) →
    (built.afterCalls calls).state = .startup
  /-- A single pass leaves the state as it is. -/
  once : ∀ clock streams, ((built.afterCalls calls).runOnce clock streams).collector.state =
    (built.afterCalls calls).state
  /-- A run ends with its parent or with a failed pass. -/
  run : ∀ clock streams watch,
    Ending clock built.pageSize ((built.afterCalls calls).run clock streams watch)
  /-- The sources of the collector were available when it was built. -/
  available : (built.afterCalls calls).state ≠ .terminated .sourcesUnavailable

/-- Every collector that is built over open sources keeps to its life cycle. -/
theorem lifeCycle (sources : Sources) (interval : Duration) (pageSize : UInt64)
    (calls : List Call) : LifeCycle (ofSources sources interval pageSize) calls where
  passes_eq := by
    rw [passes_afterCalls]
    exact Nat.zero_add _
  passes_le := by
    rintro earlier later rfl
    rw [afterCalls_append]
    exact passes_le_afterCalls ..
  startup hcalls := state_afterCalls_of_once hcalls
  once _ _ := rfl
  run clock streams watch := by
    rw [← pageSize_afterCalls (ofSources sources interval pageSize) calls]
    exact run_ending ..
  available := state_afterCalls_ne calls (by simp [ofSources])

end SocketMetrics.Collector
