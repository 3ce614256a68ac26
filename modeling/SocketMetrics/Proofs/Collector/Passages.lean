import SocketMetrics.Proofs.Collector.Course
import SocketMetrics.Proofs.Pass.Rereading
/-!
# The passes of a collector as they are seen from outside

A `Passage` is a pass as a trace shows it: the sources and streams at its beginning, and those at
the next moment of the trace or, if there is none, at the end of the run. It `IsPass` when what it
left is what a pass over what it found leaves.

The passages of a run are passes each of which takes up where the one before it has left off
(`Course.consecutive`); as many of them are complete as the run has counted
(`Course.passes_eq`).
-/

set_option autoImplicit false
set_option relaxedAutoImplicit false

namespace SocketMetrics.Collector

open Channel

/-! ### Passages -/

/-- The sources and the streams of a collector at one time. -/
structure Situation where
  sources : Sources
  streams : Streams

def Moment.situation (moment : Moment) : Situation :=
  ⟨moment.sources, moment.streams⟩

/-- The situation at the end of a run. -/
def Run.situation (run : Run) : Situation :=
  ⟨run.collector.sources, run.streams⟩

/-- A pass with its time, what it found and what it left. -/
structure Passage where
  timestamp : Int
  found : Situation
  left : Situation

/-- The situation at the first of some moments, or the last situation if there are none. -/
def situationAt (last : Situation) : List Moment → Situation
  | [] => last
  | moment :: _ => moment.situation

/-- The passages that moments show, with the situation behind them. -/
def passagesIn (clock : Clock) (last : Situation) : List Moment → List Passage
  | [] => []
  | moment :: later =>
    if moment.action = .began then
      ⟨clock moment.passes, moment.situation, situationAt last later⟩ ::
        passagesIn clock last later
    else passagesIn clock last later

/-- The passages of a run. -/
def Run.passages (run : Run) (clock : Clock) : List Passage :=
  passagesIn clock run.situation run.trace

namespace Passage

variable (passage : Passage) (pageSize : UInt64)

/-- The pass over what the passage found. -/
def pass : Pass :=
  Pass.run passage.found.sources passage.found.streams passage.timestamp pageSize

/-- The passage left what the pass over what it found leaves. -/
def IsPass : Prop :=
  passage.left = ⟨(passage.pass pageSize).sources, (passage.pass pageSize).streams⟩

/-- Every write of the passage and both of its flushes succeeded. -/
def IsComplete : Prop :=
  Pass.IsComplete passage.found.sources passage.found.streams passage.timestamp pageSize

instance : Decidable (passage.IsComplete pageSize) :=
  inferInstanceAs (Decidable (Pass.IsComplete ..))

/-- Every entry about the summary was written. -/
def WritesSummary : Prop :=
  Pass.WritesSummary passage.found.sources passage.found.streams passage.timestamp pageSize

instance : Decidable (passage.WritesSummary pageSize) :=
  inferInstanceAs (Decidable (Pass.WritesSummary ..))

/-- What the passage added to the output stream. -/
def out : Text :=
  passage.left.streams.out.written.drop passage.found.streams.out.written.length

/-- What the passage added to the error stream. -/
def err : Text :=
  passage.left.streams.err.written.drop passage.found.streams.err.written.length

end Passage

/-- The passage of a single pass. -/
def stepPassage (collector : Collector) (clock : Clock) (streams : Streams) : Passage :=
  let step := collector.runOnce clock streams
  ⟨clock collector.passes, ⟨collector.sources, streams⟩, ⟨step.collector.sources, step.streams⟩⟩

theorem isPass_stepPassage (collector : Collector) (clock : Clock) (streams : Streams) :
    (collector.stepPassage clock streams).IsPass collector.pageSize := rfl

/-- A single pass succeeds when its passage is complete. -/
theorem isComplete_stepPassage_iff {collector : Collector} {clock : Clock} {streams : Streams} :
    (collector.stepPassage clock streams).IsComplete collector.pageSize ↔
      ∃ report, (collector.runOnce clock streams).outcome = .ok report :=
  Pass.isComplete_iff

/-- A single pass counts when it is complete. -/
theorem passes_runOnce (collector : Collector) (clock : Clock) (streams : Streams) :
    (collector.runOnce clock streams).collector.passes = collector.passes +
      if (collector.stepPassage clock streams).IsComplete collector.pageSize then 1 else 0 := by
  cases houtcome : (collector.runOnce clock streams).outcome with
  | ok report =>
    rw [passes_runOnce_of_ok houtcome,
      if_pos (isComplete_stepPassage_iff.mpr ⟨report, houtcome⟩)]
  | error fault =>
    have hfailed : ¬ (collector.stepPassage clock streams).IsComplete collector.pageSize := by
      rw [isComplete_stepPassage_iff, houtcome]
      simp
    rw [passes_runOnce_of_error houtcome, if_neg hfailed, Nat.add_zero]

/-! ### The passages of a run -/

/-- Passages each of which takes up where the one before it has left off. -/
inductive Consecutive (pageSize : UInt64) : Situation → List Passage → Situation → Prop where
  | nil (situation : Situation) : Consecutive pageSize situation [] situation
  | cons {passage : Passage} {others : List Passage} {last : Situation}
      (hpass : passage.IsPass pageSize) (hothers : Consecutive pageSize passage.left others last) :
      Consecutive pageSize passage.found (passage :: others) last

/-- No passage is in moments without a beginning. -/
theorem passagesIn_moments {actions : List Action} (hactions : .began ∉ actions) (clock : Clock)
    (last : Situation) (collector : Collector) (streams : Streams) (later : List Moment) :
    passagesIn clock last (moments collector streams actions ++ later) =
      passagesIn clock last later := by
  induction actions with
  | nil => rfl
  | cons action others ih =>
    rw [List.mem_cons, not_or] at hactions
    have haction : action ≠ .began := Ne.symm hactions.1
    exact (if_neg haction).trans (ih hactions.2)

/-- The situation stays while nothing is written. -/
theorem situationAt_moments {last : Situation} {collector : Collector} {streams : Streams}
    {later : List Moment} (hlater : situationAt last later = ⟨collector.sources, streams⟩)
    (actions : List Action) :
    situationAt last (moments collector streams actions ++ later) =
      ⟨collector.sources, streams⟩ := by
  cases actions with
  | nil => exact hlater
  | cons action others => rfl

/-- The passages of a lap are its pass and those behind it. -/
theorem passagesIn_lapMoments {clock : Clock} {last : Situation} {collector : Collector}
    {streams : Streams} {later : List Moment} {slept : List Action} {step : Step}
    (hstep : collector.runOnce clock streams = step) (hslept : .began ∉ slept)
    (hlater : situationAt last later = ⟨step.collector.sources, step.streams⟩) :
    passagesIn clock last (lapMoments collector streams step slept ++ later) =
      collector.stepPassage clock streams :: passagesIn clock last later := by
  subst hstep
  have hleft := situationAt_moments hlater slept
  have hbehind := passagesIn_moments hslept clock last
    (collector.runOnce clock streams).collector (collector.runOnce clock streams).streams later
  unfold stepPassage
  simp only
  rw [← hleft, ← hbehind, lapMoments, List.append_assoc]
  rfl

namespace Course

variable {clock : Clock} {collector : Collector} {streams : Streams} {watch : Watch} {run : Run}

/-- The trace of a loop begins in the situation of the loop. -/
theorem situationAt_trace (hcourse : Course clock collector streams watch run) :
    situationAt run.situation run.trace = ⟨collector.sources, streams⟩ := by
  cases hcourse <;> rfl

/-- A failed loop shows the pass that failed. -/
theorem passages_of_failed {step : Step} {fault : Fault}
    (hstep : collector.runOnce clock streams = step) :
    Run.passages ⟨step.collector, step.streams, .error fault, step.log,
      moments collector streams [.asked true, .began]⟩ clock =
        [collector.stepPassage clock streams] := by
  subst hstep
  rfl

/-- A loop that is woken up shows one pass. -/
theorem passages_of_wokenUp {step : Step} {later : Watch} {log : List Log.Record}
    (hstep : collector.runOnce clock streams = step) :
    ((Collector.parentGone step.collector step.streams).after log
      (lapMoments collector streams step (sleep collector.interval later).actions)).passages clock =
        [collector.stepPassage clock streams] :=
  passagesIn_lapMoments hstep (began_not_mem_sleep _ _) rfl

/-- A lap shows its pass and then the passages behind it. -/
theorem passages_of_lap {step : Step} {later rest : Watch} {log : List Log.Record}
    (hstep : collector.runOnce clock streams = step)
    (hnext : Course clock step.collector step.streams rest run) :
    (run.after log (lapMoments collector streams step
      (sleep collector.interval later).actions)).passages clock =
        collector.stepPassage clock streams :: run.passages clock :=
  passagesIn_lapMoments hstep (began_not_mem_sleep _ _) hnext.situationAt_trace

/-- The passages of a loop take up one where the other has left off. -/
theorem consecutive (hcourse : Course clock collector streams watch run) :
    Consecutive collector.pageSize ⟨collector.sources, streams⟩ (run.passages clock)
      run.situation := by
  induction hcourse with
  | parentGone hwatch => exact .nil _
  | failed hstep hfault =>
    rw [passages_of_failed hstep]
    subst hstep
    exact .cons (isPass_stepPassage ..) (.nil _)
  | wokenUp hstep hreport hrest =>
    rw [passages_of_wokenUp hstep]
    subst hstep
    exact .cons (isPass_stepPassage ..) (.nil _)
  | lap hstep hreport hrest hnext ih =>
    rw [passages_of_lap hstep hnext]
    subst hstep
    exact .cons (isPass_stepPassage ..) ih

/-- A loop counts its complete passages. -/
theorem passes_eq (hcourse : Course clock collector streams watch run) :
    run.collector.passes = collector.passes +
      (run.passages clock).countP (·.IsComplete collector.pageSize) := by
  induction hcourse with
  | parentGone hwatch => rfl
  | @failed collector streams later step fault hstep hfault =>
    rw [passages_of_failed hstep, List.countP_singleton]
    subst hstep
    simpa using collector.passes_runOnce clock streams
  | @wokenUp collector streams later step report log hstep hreport hrest =>
    rw [passages_of_wokenUp hstep, List.countP_singleton]
    subst hstep
    change (collector.runOnce clock streams).collector.passes = _
    simpa using collector.passes_runOnce clock streams
  | @lap collector streams later rest step report log run hstep hreport hrest hnext ih =>
    rw [passages_of_lap hstep hnext, List.countP_cons]
    subst hstep
    have hone := collector.passes_runOnce clock streams
    have hothers : run.collector.passes = (collector.runOnce clock streams).collector.passes +
        (run.passages clock).countP (·.IsComplete collector.pageSize) := ih
    change run.collector.passes = _
    rw [hothers, hone]
    simp only [decide_eq_true_eq]
    omega

end Course

end SocketMetrics.Collector
