import SocketMetrics.Proofs.Collector.Course
import SocketMetrics.Proofs.Pass.Rereading
/-!
# Nothing waits in the streams

Whenever the collector asks after its parent or sleeps, all that it has written in the run has been
flushed. `Sink.FlushedSince` says this of one sink and counts the flushes. A complete pass flushes
both sinks once (`flushedSince_runOnce`), a pass that is not complete leaves the loop, and nothing
is written between the passes; so every moment of a trace but the beginning of a pass finds the
streams flushed as often as passes were begun before it (`flushed_of_not_began`).
-/

set_option autoImplicit false
set_option relaxedAutoImplicit false

namespace SocketMetrics

namespace Channel

/-- Whatever the sink has taken since an earlier time has been flushed, and so many flushes have
succeeded in the meantime. -/
structure Sink.FlushedSince (earlier : Sink) (times : ℕ) (now : Sink) : Prop where
  written_prefix : earlier.written <+: now.written
  flushed : now.pending = [] ∨ now.written = earlier.written ∧ now.pending = earlier.pending
  flushes_eq : now.flushes = earlier.flushes + times

/-- Whatever both streams have taken since an earlier time has been flushed. -/
structure Streams.FlushedSince (earlier : Streams) (times : ℕ) (now : Streams) : Prop where
  out : earlier.out.FlushedSince times now.out
  err : earlier.err.FlushedSince times now.err

theorem Sink.flushedSince_refl (sink : Sink) : sink.FlushedSince 0 sink :=
  ⟨List.prefix_rfl, .inr ⟨rfl, rfl⟩, rfl⟩

theorem Streams.flushedSince_refl (streams : Streams) : streams.FlushedSince 0 streams :=
  ⟨streams.out.flushedSince_refl, streams.err.flushedSince_refl⟩

theorem Sink.FlushedSince.trans {first middle last : Sink} {times more : ℕ}
    (hmiddle : first.FlushedSince times middle) (hlast : middle.FlushedSince more last) :
    first.FlushedSince (times + more) last where
  written_prefix := hmiddle.written_prefix.trans hlast.written_prefix
  flushed := by
    rcases hlast.flushed with hpending | ⟨hwritten, hpending⟩
    · exact .inl hpending
    · rw [hwritten, hpending]
      exact hmiddle.flushed
  flushes_eq := by rw [hlast.flushes_eq, hmiddle.flushes_eq, Nat.add_assoc]

theorem Streams.FlushedSince.trans {first middle last : Streams} {times more : ℕ}
    (hmiddle : first.FlushedSince times middle) (hlast : middle.FlushedSince more last) :
    first.FlushedSince (times + more) last :=
  ⟨hmiddle.out.trans hlast.out, hmiddle.err.trans hlast.err⟩

theorem Sink.flushedSince_flushed (sink : Sink) (text : Text) :
    sink.FlushedSince 1 (sink.append text).flushed :=
  ⟨List.prefix_append .., .inl rfl, rfl⟩

end Channel

namespace Collector

open Channel

/-! ### Passes -/

/-- A pass that succeeds flushes both streams once, behind everything that it writes. -/
theorem flushedSince_runOnce {collector : Collector} {clock : Clock} {streams : Streams}
    {report : Pass.Report} (hreport : (collector.runOnce clock streams).outcome = .ok report) :
    streams.FlushedSince 1 (collector.runOnce clock streams).streams := by
  have hcomplete := Pass.isComplete_iff.mpr ⟨report, hreport⟩
  have hstreams : (collector.runOnce clock streams).streams =
      (Pass.finalEmitter collector.sources streams (clock collector.passes)
        collector.pageSize).streams :=
    congrArg Pass.streams (Pass.run_of_isComplete hcomplete)
  rw [hstreams]
  exact ⟨streams.out.flushedSince_flushed _, streams.err.flushedSince_flushed _⟩

/-! ### Moments -/

/-- How many passes begin in a stretch of a trace. -/
def begun (trace : List Moment) : ℕ :=
  trace.countP fun moment ↦ moment.action = .began

/-- The streams are flushed at a moment, and as many passes were completed before it as were begun
since the given state of the collector. -/
structure Moment.IsFlushed (collector : Collector) (streams : Streams) (before : List Moment)
    (moment : Moment) : Prop where
  passes_eq : moment.passes = collector.passes + begun before
  flushedSince : streams.FlushedSince (begun before) moment.streams

/-- All moments of a trace but the beginnings of passes find the streams flushed. -/
def FlushedThroughout (collector : Collector) (streams : Streams) (trace : List Moment) : Prop :=
  ∀ before moment after, trace = before ++ moment :: after → moment.action ≠ .began →
    moment.IsFlushed collector streams before

/-- Moments behind a stretch whose passes are complete and flushed. -/
theorem FlushedThroughout.append {collector later : Collector} {streams laterStreams : Streams}
    {first second : List Moment} (hfirst : FlushedThroughout collector streams first)
    (hpasses : later.passes = collector.passes + begun first)
    (hstreams : streams.FlushedSince (begun first) laterStreams)
    (hsecond : FlushedThroughout later laterStreams second) :
    FlushedThroughout collector streams (first ++ second) := by
  intro before moment after htrace hmoment
  rcases append_eq_append_cons htrace with ⟨others, hin⟩ | ⟨others, rfl, hin⟩
  · exact hfirst before moment others hin hmoment
  · have hlater := hsecond others moment after hin hmoment
    have hbegun : begun (first ++ others) = begun first + begun others := List.countP_append
    refine ⟨?_, ?_⟩
    · rw [hlater.passes_eq, hpasses, hbegun, Nat.add_assoc]
    · rw [hbegun]
      exact hstreams.trans hlater.flushedSince

theorem begun_moments (collector : Collector) (streams : Streams) {actions : List Action}
    (hactions : .began ∉ actions) : begun (moments collector streams actions) = 0 := by
  refine List.countP_eq_zero.mpr fun moment hmoment hbegan ↦ hactions ?_
  obtain ⟨action, haction, rfl⟩ := List.mem_map.mp hmoment
  rwa [← of_decide_eq_true hbegan]

/-- Questions and sleeps find the streams as they are. -/
theorem flushedThroughout_moments (collector : Collector) (streams : Streams)
    {actions : List Action} (hactions : .began ∉ actions) :
    FlushedThroughout collector streams (moments collector streams actions) := by
  intro before moment after htrace hmoment
  have hbefore : begun before = 0 := by
    have hall := collector.begun_moments streams hactions
    rw [htrace, begun, List.countP_append] at hall
    exact (Nat.add_eq_zero_iff.mp hall).1
  have hmem : moment ∈ moments collector streams actions := by simp [htrace]
  obtain ⟨action, -, rfl⟩ := List.mem_map.mp hmem
  constructor
  · rw [hbefore, Nat.add_zero]
  · rw [hbefore]
    exact streams.flushedSince_refl

/-- A pass begins with streams that are flushed. -/
theorem flushedThroughout_beginning (collector : Collector) (streams : Streams) :
    FlushedThroughout collector streams (moments collector streams [.asked true, .began]) := by
  intro before moment after htrace hmoment
  match before with
  | [] =>
    cases htrace
    exact ⟨rfl, streams.flushedSince_refl⟩
  | [_] =>
    cases htrace
    exact absurd rfl hmoment
  | _ :: _ :: before =>
    have hlength := congrArg List.length htrace
    simp [moments] at hlength

/-- A lap whose pass succeeds, before moments that find the streams flushed. -/
theorem FlushedThroughout.lap {collector : Collector} {clock : Clock} {streams : Streams}
    {step : Step} {report : Pass.Report} {slept : List Action} {later : List Moment}
    (hstep : collector.runOnce clock streams = step) (hreport : step.outcome = .ok report)
    (hslept : .began ∉ slept) (hlater : FlushedThroughout step.collector step.streams later) :
    FlushedThroughout collector streams (lapMoments collector streams step slept ++ later) := by
  subst hstep
  rw [lapMoments, List.append_assoc]
  -- the pass flushes once and the sleep behind it writes nothing
  refine (collector.flushedThroughout_beginning streams).append (passes_runOnce_of_ok hreport)
    (flushedSince_runOnce hreport) ?_
  have hzero := begun_moments (collector.runOnce clock streams).collector
    (collector.runOnce clock streams).streams hslept
  refine (flushedThroughout_moments _ _ hslept).append ?_ ?_ hlater
  · rw [hzero, Nat.add_zero]
  · rw [hzero]
    exact Streams.flushedSince_refl _

/-- All moments of a loop but the beginnings of its passes find the streams flushed. -/
theorem Course.flushedThroughout {clock : Clock} {collector : Collector} {streams : Streams}
    {watch : Watch} {run : Run} (hcourse : Course clock collector streams watch run) :
    FlushedThroughout collector streams run.trace := by
  induction hcourse with
  | @parentGone collector streams watch hwatch =>
    have hasked : Action.began ∉ [Action.asked false] := by decide
    exact collector.flushedThroughout_moments streams hasked
  | @failed collector streams later step fault hstep hfault =>
    exact collector.flushedThroughout_beginning streams
  | @wokenUp collector streams later step report log hstep hreport hrest =>
    refine FlushedThroughout.lap hstep hreport (began_not_mem_sleep collector.interval later) ?_
    exact step.collector.flushedThroughout_moments step.streams List.not_mem_nil
  | @lap collector streams later rest step report log run hstep hreport hrest hnext ih =>
    exact FlushedThroughout.lap hstep hreport (began_not_mem_sleep collector.interval later) ih

/-- Whenever a run asks after the parent or begins a slice of a sleep, everything that it has
written so far has been flushed, and each stream as often as the run has completed passes. -/
theorem flushed_of_not_began {collector : Collector} {clock : Clock} {streams : Streams}
    {watch : Watch} {before after : List Moment} {moment : Moment}
    (htrace : (collector.run clock streams watch).trace = before ++ moment :: after)
    (hmoment : moment.action ≠ .began) :
    moment.passes = collector.passes + begun before ∧
      streams.FlushedSince (begun before) moment.streams := by
  obtain ⟨run, hcourse, hrun⟩ := collector.run_course clock streams watch
  rw [hrun] at htrace
  have hflushed := hcourse.flushedThroughout before moment after htrace hmoment
  exact ⟨hflushed.passes_eq, hflushed.flushedSince⟩

/-- A collector whose summary cannot be read, over an output stream whose third flush fails. In
front of the third pass it has slept twice in two slices, and the lines of two passes are written
and flushed. -/
theorem flushed_before_third_flush_fails :
    let table : Text := "Tcp: OutRsts\nTcp: 5\n".toList
    let collector :=
      ofSources ⟨.constant .directory, .constant (.ofBytes table.toUtf8)⟩ ⟨1500000000⟩ 4096
    let streams : Streams :=
      ⟨{ Sink.unbounded with flushFailure := some ⟨2, .noSpace⟩ }, .unbounded⟩
    let run := collector.run (fun passes ↦ 7 + passes) streams (Watch.alive 7)
    let lap : List Action := [.asked true, .began, .asked true, .slept ⟨1000000000⟩, .asked true,
      .slept ⟨500000000⟩]
    let metrics : Text := ("net.stat.tcp.resets 7 5 direction=out\n" ++
      "net.stat.tcp.resets 8 5 direction=out\n").toList
    let message : Text := "Failed to read sockstat: Is a directory (os error 21)\n".toList
    run.outcome = .error .noSpace ∧
      run.actions = lap ++ lap ++ [.asked true, .began] ∧
      ∃ before moment after, run.trace = before ++ moment :: after ∧ after.length = 1 ∧
        moment.passes = 2 ∧ streams.FlushedSince 2 moment.streams ∧
        moment.streams.out.written = metrics ∧ moment.streams.err.written = message ++ message := by
  intro table collector streams run lap metrics message
  obtain ⟨houtcome, hactions, hbegun, hshown⟩ : run.outcome = .error .noSpace ∧
      run.actions = lap ++ lap ++ [.asked true, .began] ∧ begun (run.trace.take 12) = 2 ∧
      run.trace[12]?.map
        (fun moment ↦ (moment.action, moment.streams.out.written, moment.streams.err.written)) =
          some (.asked true, metrics, message ++ message) := by
    decide +kernel
  refine ⟨houtcome, hactions, ?_⟩
  have hlength : run.trace.length = 14 := by
    rw [← List.length_map Moment.action]
    exact congrArg List.length hactions
  obtain ⟨moment, hmoment, hshown⟩ := Option.map_eq_some_iff.mp hshown
  rw [Prod.mk.injEq, Prod.mk.injEq] at hshown
  obtain ⟨haction, hout, herr⟩ := hshown
  have htrace : run.trace = run.trace.take 12 ++ moment :: run.trace.drop 13 := by
    obtain ⟨hlt, rfl⟩ := List.getElem?_eq_some_iff.mp hmoment
    rw [← List.drop_eq_getElem_cons hlt, List.take_append_drop]
  obtain ⟨hpasses, hflushed⟩ := flushed_of_not_began htrace (by rw [haction]; decide)
  rw [hbegun] at hpasses hflushed
  exact ⟨_, moment, _, htrace, by rw [List.length_drop, hlength], hpasses, hflushed, hout, herr⟩

end Collector

end SocketMetrics
