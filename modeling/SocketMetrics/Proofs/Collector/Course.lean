import SocketMetrics.Proofs.Collector.Sleep
/-!
# The course of the collection loop

`Course` is the graph of the loop: a constructor for each way in which a lap goes on or ends, with
the collector, the streams and the watch that the next lap finds. Only the log is left open. Every
loop follows its course (`loop_course`), so that what holds of all runs is shown by induction on
courses, without another look at the loop.

A watch is finite, but a parent may outlive every count. `run_front_prefix` is why nothing is lost:
with more answers a run does the same up to the moment that ended it, and then goes on, so that what
is shown of the moments of finite runs is shown of every moment that a collector ever comes to.
-/

set_option autoImplicit false
set_option relaxedAutoImplicit false

namespace SocketMetrics.Collector

open Channel

theorem passes_runOnce_of_ok {collector : Collector} {clock : Clock} {streams : Streams}
    {report : Pass.Report} (hreport : (collector.runOnce clock streams).outcome = .ok report) :
    (collector.runOnce clock streams).collector.passes = collector.passes + 1 := by
  simp only [runOnce] at hreport ⊢
  rw [hreport]

theorem passes_runOnce_of_error {collector : Collector} {clock : Clock} {streams : Streams}
    {fault : Fault} (hfault : (collector.runOnce clock streams).outcome = .error fault) :
    (collector.runOnce clock streams).collector.passes = collector.passes := by
  simp only [runOnce] at hfault ⊢
  rw [hfault]

/-- The moments of a lap: the question, the pass, and the sleep behind it. -/
def lapMoments (collector : Collector) (streams : Streams) (step : Step) (slept : List Action) :
    List Moment :=
  moments collector streams [.asked true, .began] ++ moments step.collector step.streams slept

/-- What a loop does, lap by lap, and what it leaves behind. -/
inductive Course (clock : Clock) : Collector → Streams → Watch → Run → Prop where
  /-- The parent is gone before a pass. -/
  | parentGone {collector : Collector} {streams : Streams} {watch : Watch}
      (hwatch : watch.head? ≠ some true) :
      Course clock collector streams watch
        ((Collector.parentGone collector streams).after []
          (moments collector streams [.asked false]))
  /-- A stream fails in a pass. -/
  | failed {collector : Collector} {streams : Streams} {later : Watch} {step : Step}
      {fault : Fault} (hstep : collector.runOnce clock streams = step)
      (hfault : step.outcome = .error fault) :
      Course clock collector streams (true :: later)
        ⟨step.collector, step.streams, .error fault, step.log,
          moments collector streams [.asked true, .began]⟩
  /-- The parent is gone during a sleep. -/
  | wokenUp {collector : Collector} {streams : Streams} {later : Watch} {step : Step}
      {report : Pass.Report} {log : List Log.Record}
      (hstep : collector.runOnce clock streams = step) (hreport : step.outcome = .ok report)
      (hrest : (sleep collector.interval later).rest = none) :
      Course clock collector streams (true :: later)
        ((Collector.parentGone step.collector step.streams).after log
          (lapMoments collector streams step (sleep collector.interval later).actions))
  /-- A pass and a sleep are complete. -/
  | lap {collector : Collector} {streams : Streams} {later rest : Watch} {step : Step}
      {report : Pass.Report} {log : List Log.Record} {run : Run}
      (hstep : collector.runOnce clock streams = step) (hreport : step.outcome = .ok report)
      (hrest : (sleep collector.interval later).rest = some rest)
      (hnext : Course clock step.collector step.streams rest run) :
      Course clock collector streams (true :: later)
        (run.after log
          (lapMoments collector streams step (sleep collector.interval later).actions))

/-- The loop follows its course. -/
theorem loop_course (clock : Clock) (collector : Collector) (streams : Streams) (watch : Watch) :
    Course clock collector streams watch (loop clock collector streams watch) := by
  fun_induction loop clock collector streams watch with
  | case1 collector streams later before step fault hfault =>
    exact .failed rfl hfault
  | case2 collector streams later before step report hreport log slept during hrest =>
    exact .wokenUp rfl hreport hrest
  | case3 collector streams later before step report hreport log slept during rest hrest ih =>
    exact .lap rfl hreport hrest ih
  | case4 collector streams watch hwatch =>
    refine .parentGone fun halive ↦ ?_
    obtain ⟨later, rfl⟩ := List.head?_eq_some_iff.mp halive
    exact hwatch later rfl

/-- A run is a loop of the running collector, but for its first record. -/
theorem run_course (collector : Collector) (clock : Clock) (streams : Streams) (watch : Watch) :
    ∃ run, Course clock { collector with state := .running } streams watch run ∧
      collector.run clock streams watch =
        run.after [{ collector with state := .running }.startRecord] [] :=
  ⟨_, loop_course .., rfl⟩

/-- A loop leaves the page size as it was. -/
theorem Course.pageSize_eq {clock : Clock} {collector : Collector} {streams : Streams}
    {watch : Watch} {run : Run} (hcourse : Course clock collector streams watch run) :
    run.collector.pageSize = collector.pageSize := by
  induction hcourse with
  | parentGone hwatch => rfl
  | failed hstep hfault =>
    subst hstep
    rfl
  | wokenUp hstep hreport hrest =>
    subst hstep
    rfl
  | lap hstep hreport hrest hnext ih =>
    subst hstep
    exact ih

/-! ### Longer watches -/

/-- A lap with a shorter sleep is the beginning of one with a longer sleep. -/
theorem lapMoments_prefix {front slept : List Action} (hfront : front <+: slept)
    (collector : Collector) (streams : Streams) (step : Step) (later : List Moment) :
    lapMoments collector streams step front <+: lapMoments collector streams step slept ++ later :=
  ((List.prefix_append_right_inj _).mpr (hfront.map _)).trans (List.prefix_append ..)

section Behind

variable {clock : Clock} {collector : Collector} {streams : Streams} {later watch more : Watch}
  {run longer : Run}

/-- A loop that finds the parent alive asks first. -/
theorem Course.asks_first (hcourse : Course clock collector streams (true :: later) run) :
    moments collector streams [.asked true] <+: run.trace := by
  cases hcourse with
  | parentGone hwatch => exact absurd rfl hwatch
  | failed hstep hfault => exact List.prefix_append ..
  | wokenUp hstep hreport hrest => exact List.prefix_append ..
  | lap hstep hreport hrest hnext => exact List.prefix_append ..

/-- A loop whose first pass succeeds sleeps behind it and goes on if the sleep is complete. -/
theorem Course.behind_lap (hcourse : Course clock collector streams (true :: later) run)
    {report : Pass.Report} (hreport : (collector.runOnce clock streams).outcome = .ok report) :
    ∃ behind : Run,
      run.trace = lapMoments collector streams (collector.runOnce clock streams)
        (sleep collector.interval later).actions ++ behind.trace ∧
      ∀ rest, (sleep collector.interval later).rest = some rest →
        Course clock (collector.runOnce clock streams).collector
          (collector.runOnce clock streams).streams rest behind := by
  cases hcourse with
  | parentGone hwatch => exact absurd rfl hwatch
  | failed hstep hfault =>
    rw [hstep, hfault] at hreport
    cases hreport
  | wokenUp hstep hother hnone =>
    subst hstep
    exact ⟨_, rfl, fun rest hrest ↦ nomatch hnone.symm.trans hrest⟩
  | lap hstep hother hsome hnext =>
    subst hstep
    exact ⟨_, rfl, fun rest hrest ↦ Option.some.inj (hsome.symm.trans hrest) ▸ hnext⟩

/-- What a loop does up to its last moment it also does when more answers follow. -/
theorem Course.front_prefix (hcourse : Course clock collector streams watch run)
    (hlonger : Course clock collector streams (watch ++ more) longer) :
    ∃ front last, run.trace = front ++ [last] ∧ front <+: longer.trace := by
  induction hcourse generalizing longer with
  | parentGone hwatch => exact ⟨[], _, rfl, List.nil_prefix⟩
  | failed hstep hfault => exact ⟨_, _, rfl, hlonger.asks_first⟩
  | @wokenUp collector streams later step report log hstep hreport hrest =>
    subst hstep
    -- in the longer loop the sleep goes on where it is broken off in the shorter one
    obtain ⟨front, hactions, -, hfront⟩ := sleep_append_of_none hrest more
    obtain ⟨behind, htrace, -⟩ := hlonger.behind_lap hreport
    let step := collector.runOnce clock streams
    refine ⟨lapMoments collector streams step front,
      ⟨.asked false, step.collector.sources, step.streams, step.collector.passes⟩, ?_, ?_⟩
    · change lapMoments collector streams step _ ++ [] = _
      rw [List.append_nil, hactions]
      simp [lapMoments, moments]
    · rw [htrace]
      exact lapMoments_prefix hfront ..
  | @lap collector streams later rest step report log run hstep hreport hrest hnext ih =>
    subst hstep
    rw [List.cons_append] at hlonger
    have hsleep := sleep_append_of_some hrest more
    obtain ⟨behind, hlongerTrace, hbehind⟩ := hlonger.behind_lap hreport
    obtain ⟨front, last, htrace, hfront⟩ := ih (hbehind _ (congrArg Sleep.rest hsleep))
    rw [hlongerTrace, hsleep]
    refine ⟨_ ++ front, last, ?_, (List.prefix_append_right_inj _).mpr hfront⟩
    change _ ++ run.trace = _
    rw [htrace, List.append_assoc]

end Behind

/-- A run whose parent lives longer does what it did before, and then more. -/
theorem run_front_prefix (collector : Collector) (clock : Clock) (streams : Streams)
    (watch more : Watch) :
    ∃ front last, (collector.run clock streams watch).trace = front ++ [last] ∧
      front <+: (collector.run clock streams (watch ++ more)).trace := by
  obtain ⟨run, hcourse, hrun⟩ := collector.run_course clock streams watch
  obtain ⟨longer, hlonger, hrunLonger⟩ := collector.run_course clock streams (watch ++ more)
  obtain ⟨front, last, htrace, hfront⟩ := hcourse.front_prefix hlonger
  rw [hrun, hrunLonger]
  exact ⟨front, last, htrace, hfront⟩

end SocketMetrics.Collector
