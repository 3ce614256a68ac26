import SocketMetrics.Proofs.Collector.Passages
/-!
# Calls on a collector

A collector serves single passes and runs in any order. Every `Call` comes with its own clock, its
own streams and, for a run, its own answers about the parent, so that a list of calls covers every
history of a collector. `afterCalls` is the collector behind a history and `passages` are its passes
in their order, which follow each other over the sources of the collector without a gap, whatever
the streams of the calls are (`succession_passages`). The collector counts the complete ones
(`passes_afterCalls`).
-/

set_option autoImplicit false
set_option relaxedAutoImplicit false

namespace SocketMetrics.Collector

open Channel

/-- A use of a collector. -/
inductive Call where
  /-- A single pass. -/
  | once (clock : Clock) (streams : Streams)
  /-- Passes until the parent is gone or a stream fails. -/
  | run (clock : Clock) (streams : Streams) (watch : Watch)

namespace Call

/-- The collector behind the call. -/
def collector (call : Call) (before : Collector) : Collector :=
  match call with
  | once clock streams => (before.runOnce clock streams).collector
  | run clock streams watch => (before.run clock streams watch).collector

/-- The passes that are begun in the call. -/
def passages (call : Call) (before : Collector) : List Passage :=
  match call with
  | once clock streams => [before.stepPassage clock streams]
  | run clock streams watch => (before.run clock streams watch).passages clock

end Call

/-- The collector behind calls. -/
def afterCalls (collector : Collector) (calls : List Call) : Collector :=
  calls.foldl (fun collector call ↦ call.collector collector) collector

/-- The passes that are begun in calls, in their order. -/
def passages (collector : Collector) : List Call → List Passage
  | [] => []
  | call :: later => call.passages collector ++ (call.collector collector).passages later

@[simp] theorem afterCalls_cons (collector : Collector) (call : Call) (later : List Call) :
    collector.afterCalls (call :: later) = (call.collector collector).afterCalls later := rfl

@[simp] theorem afterCalls_append (collector : Collector) (calls later : List Call) :
    collector.afterCalls (calls ++ later) = (collector.afterCalls calls).afterCalls later :=
  List.foldl_append ..

/-! ### Runs -/

section Run

variable (collector : Collector) (clock : Clock) (streams : Streams) (watch : Watch)

/-- The passages of a run take up one where the other has left off. -/
theorem consecutive_run :
    Consecutive collector.pageSize ⟨collector.sources, streams⟩
      ((collector.run clock streams watch).passages clock)
      (collector.run clock streams watch).situation := by
  obtain ⟨run, hcourse, hrun⟩ := collector.run_course clock streams watch
  rw [hrun]
  exact hcourse.consecutive

/-- A run counts its complete passages. -/
theorem passes_run : (collector.run clock streams watch).collector.passes = collector.passes +
    ((collector.run clock streams watch).passages clock).countP
      (·.IsComplete collector.pageSize) := by
  obtain ⟨run, hcourse, hrun⟩ := collector.run_course clock streams watch
  rw [hrun]
  exact hcourse.passes_eq

end Run

/-! ### Calls one after the other -/

theorem pageSize_call (call : Call) (collector : Collector) :
    (call.collector collector).pageSize = collector.pageSize := by
  cases call with
  | once clock streams => rfl
  | run clock streams watch =>
    obtain ⟨run, hcourse, hrun⟩ := collector.run_course clock streams watch
    rw [Call.collector, hrun]
    exact hcourse.pageSize_eq

/-- Passages that follow each other over the same sources. -/
inductive Succession (pageSize : UInt64) : Sources → List Passage → Sources → Prop where
  | nil (sources : Sources) : Succession pageSize sources [] sources
  | cons {passage : Passage} {others : List Passage} {last : Sources}
      (hpass : passage.IsPass pageSize)
      (hothers : Succession pageSize passage.left.sources others last) :
      Succession pageSize passage.found.sources (passage :: others) last

variable {pageSize : UInt64}

theorem Succession.append {first middle last : Sources} {passages others : List Passage}
    (hpassages : Succession pageSize first passages middle)
    (hothers : Succession pageSize middle others last) :
    Succession pageSize first (passages ++ others) last := by
  induction hpassages with
  | nil sources => exact hothers
  | cons hpass hrest ih => exact .cons hpass (ih hothers)

theorem Consecutive.succession {first last : Situation} {passages : List Passage}
    (hpassages : Consecutive pageSize first passages last) :
    Succession pageSize first.sources passages last.sources := by
  induction hpassages with
  | nil situation => exact .nil situation.sources
  | cons hpass hrest ih => exact .cons hpass ih

theorem succession_call (call : Call) (collector : Collector) :
    Succession collector.pageSize collector.sources (call.passages collector)
      (call.collector collector).sources := by
  cases call with
  | once clock streams => exact .cons (collector.isPass_stepPassage clock streams) (.nil _)
  | run clock streams watch => exact (collector.consecutive_run clock streams watch).succession

/-- The passes of calls follow each other over the sources of the collector. -/
theorem succession_passages (collector : Collector) (calls : List Call) :
    Succession collector.pageSize collector.sources (collector.passages calls)
      (collector.afterCalls calls).sources := by
  induction calls generalizing collector with
  | nil => exact .nil collector.sources
  | cons call later ih =>
    have hlater := ih (call.collector collector)
    rw [pageSize_call] at hlater
    exact (succession_call call collector).append hlater

theorem passes_call (call : Call) (collector : Collector) :
    (call.collector collector).passes = collector.passes +
      (call.passages collector).countP (·.IsComplete collector.pageSize) := by
  cases call with
  | once clock streams =>
    have hone := collector.passes_runOnce clock streams
    simpa [Call.passages, Call.collector] using hone
  | run clock streams watch => exact collector.passes_run clock streams watch

/-- The collector counts the complete passes of all calls. -/
theorem passes_afterCalls (collector : Collector) (calls : List Call) :
    (collector.afterCalls calls).passes = collector.passes +
      (collector.passages calls).countP (·.IsComplete collector.pageSize) := by
  induction calls generalizing collector with
  | nil => rfl
  | cons call later ih =>
    have hlater := ih (call.collector collector)
    simp only [pageSize_call] at hlater
    rw [afterCalls_cons, hlater, passes_call, passages, List.countP_append, Nat.add_assoc]

end SocketMetrics.Collector
