import SocketMetrics.Proofs.Collector.History
import SocketMetrics.Proofs.Pass.Timing
/-!
# A run as single passes one after the other

A run that ends because the parent is gone consists of complete passes (`Course.isComplete_of_ok`),
and what it has written is what they have written, one behind the other (`Consecutive.written`). The
sources move on by one version in each of them, and in each of as many complete single passes too,
so that both find the same texts pass by pass (`Succession.sameButTimes`). `historyFree_and_repeats`
puts this together with the independence of the single passes.
-/

set_option autoImplicit false
set_option relaxedAutoImplicit false

namespace SocketMetrics.Collector

open Channel

variable {pageSize : UInt64}

/-! ### Complete passes -/

/-- The metric lines of a pass over what the passage found. -/
def Passage.metrics (passage : Passage) (pageSize : UInt64) : List Text :=
  metricLines (Pass.allEntries passage.found.sources passage.timestamp pageSize)

/-- The messages of a pass over what the passage found. -/
def Passage.messages (passage : Passage) (pageSize : UInt64) : List Text :=
  messageLines (Pass.allEntries passage.found.sources passage.timestamp pageSize)

/-- A complete pass has read both sources and written all of its lines. -/
structure Passage.Completes (passage : Passage) (pageSize : UInt64) : Prop where
  sources_eq : passage.left.sources =
    ⟨passage.found.sources.sockstat.reread.source, passage.found.sources.netstat.reread.source⟩
  out_eq : passage.out = linesText (passage.metrics pageSize)
  err_eq : passage.err = linesText (passage.messages pageSize)
  out_written : passage.left.streams.out.written =
    passage.found.streams.out.written ++ passage.out
  err_written : passage.left.streams.err.written =
    passage.found.streams.err.written ++ passage.err

theorem Passage.IsPass.completes {passage : Passage} (hpass : passage.IsPass pageSize)
    (hcomplete : passage.IsComplete pageSize) : passage.Completes pageSize := by
  have hleft : passage.left = _ := hpass
  rw [Passage.pass, Pass.run_of_isComplete hcomplete] at hleft
  have hout : passage.left.streams.out.written =
      passage.found.streams.out.written ++ linesText (passage.metrics pageSize) := by
    rw [hleft]
    rfl
  have herr : passage.left.streams.err.written =
      passage.found.streams.err.written ++ linesText (passage.messages pageSize) := by
    rw [hleft]
    rfl
  have houtEq : passage.out = linesText (passage.metrics pageSize) := by
    rw [Passage.out, hout, List.drop_left]
  have herrEq : passage.err = linesText (passage.messages pageSize) := by
    rw [Passage.err, herr, List.drop_left]
  exact ⟨congrArg Situation.sources hleft, houtEq, herrEq, houtEq ▸ hout, herrEq ▸ herr⟩

/-- Consecutive complete passes have written what they have added one after the other. -/
theorem Consecutive.written {first last : Situation} {passages : List Passage}
    (hpassages : Consecutive pageSize first passages last)
    (hcomplete : ∀ passage ∈ passages, passage.IsComplete pageSize) :
    last.streams.out.written = first.streams.out.written ++ passages.flatMap Passage.out ∧
      last.streams.err.written = first.streams.err.written ++ passages.flatMap Passage.err := by
  induction hpassages with
  | nil situation => simp
  | cons hpass hothers ih =>
    obtain ⟨hfirst, hlater⟩ := List.forall_mem_cons.mp hcomplete
    have hcompletes := hpass.completes hfirst
    obtain ⟨hout, herr⟩ := ih hlater
    rw [List.flatMap_cons, List.flatMap_cons, hout, herr, hcompletes.out_written,
      hcompletes.err_written, List.append_assoc, List.append_assoc]
    exact ⟨rfl, rfl⟩

/-- What complete passes have added to the output stream are their metric lines. -/
theorem Succession.flatMap_out {first last : Sources} {passages : List Passage}
    (hpassages : Succession pageSize first passages last)
    (hcomplete : ∀ passage ∈ passages, passage.IsComplete pageSize) :
    passages.flatMap Passage.out = linesText (passages.flatMap (·.metrics pageSize)) := by
  induction hpassages with
  | nil sources => rfl
  | cons hpass hothers ih =>
    obtain ⟨hfirst, hlater⟩ := List.forall_mem_cons.mp hcomplete
    rw [List.flatMap_cons, List.flatMap_cons, linesText_append, ih hlater,
      (hpass.completes hfirst).out_eq]

/-! ### The same passes at other times -/

/-- Complete passes over the same sources, as many in one row as in the other, write the same but
for their times, whatever the streams are. -/
theorem Succession.sameButTimes {first last otherLast : Sources} {passages others : List Passage}
    (hpassages : Succession pageSize first passages last)
    (hothers : Succession pageSize first others otherLast)
    (hlength : passages.length = others.length)
    (hcomplete : ∀ passage ∈ passages, passage.IsComplete pageSize)
    (hotherComplete : ∀ passage ∈ others, passage.IsComplete pageSize) :
    (passages.flatMap (·.metrics pageSize)).map Sample.untimed =
        (others.flatMap (·.metrics pageSize)).map Sample.untimed ∧
      passages.flatMap Passage.err = others.flatMap Passage.err := by
  induction hpassages generalizing others with
  | nil sources =>
    rw [List.eq_nil_of_length_eq_zero hlength.symm]
    exact ⟨rfl, rfl⟩
  | @cons passage passages last hpass hrest ih =>
    -- the sources that both rows start from get a name, so that the other row can be taken apart
    generalize hsources : passage.found.sources = sources at hothers
    cases hothers with
    | nil => cases hlength
    | @cons other others otherLast hother hotherRest =>
      obtain ⟨hone, hlater⟩ := List.forall_mem_cons.mp hcomplete
      obtain ⟨hotherOne, hotherLater⟩ := List.forall_mem_cons.mp hotherComplete
      have hcompletes := hpass.completes hone
      have hotherCompletes := hother.completes hotherOne
      have hnext : other.left.sources = passage.left.sources := by
        rw [hcompletes.sources_eq, hotherCompletes.sources_eq, hsources]
      rw [hnext] at hotherRest
      obtain ⟨hmetrics, hmessages⟩ :=
        ih hotherRest (Nat.succ.inj hlength) hlater hotherLater
      obtain ⟨huntimed, herr⟩ := Pass.entries_sameButTimes other.found.sources other.timestamp
        passage.timestamp pageSize
      have hmetric : (passage.metrics pageSize).map Sample.untimed =
          (other.metrics pageSize).map Sample.untimed := by
        rw [Passage.metrics, hsources]
        exact huntimed
      have hmessage : passage.err = other.err := by
        rw [hcompletes.err_eq, hotherCompletes.err_eq, Passage.messages, hsources]
        exact congrArg linesText herr
      refine ⟨?_, ?_⟩
      · rw [List.flatMap_cons, List.flatMap_cons, List.map_append, List.map_append, hmetric,
          hmetrics]
      · rw [List.flatMap_cons, List.flatMap_cons, hmessage, hmessages]

/-! ### Runs that end with the parent -/

/-- All passes of a loop that succeeds are complete. -/
theorem Course.isComplete_of_ok {clock : Clock} {collector : Collector} {streams : Streams}
    {watch : Watch} {run : Run} (hcourse : Course clock collector streams watch run)
    {reason : Termination} (hok : run.outcome = .ok reason) :
    ∀ passage ∈ run.passages clock, passage.IsComplete collector.pageSize := by
  induction hcourse with
  | parentGone hwatch => exact fun passage hpassage ↦ nomatch hpassage
  | failed hstep hfault => cases hok
  | @wokenUp collector streams later step report log hstep hreport hrest =>
    rw [passages_of_wokenUp hstep]
    subst hstep
    exact List.forall_mem_singleton.mpr (isComplete_stepPassage_iff.mpr ⟨report, hreport⟩)
  | @lap collector streams later rest step report log run hstep hreport hrest hnext ih =>
    rw [passages_of_lap hstep hnext]
    subst hstep
    exact List.forall_mem_cons.mpr ⟨isComplete_stepPassage_iff.mpr ⟨report, hreport⟩, ih hok⟩

theorem isComplete_of_run_ok {collector : Collector} {clock : Clock} {streams : Streams}
    {watch : Watch} {reason : Termination}
    (hok : (collector.run clock streams watch).outcome = .ok reason) :
    ∀ passage ∈ (collector.run clock streams watch).passages clock,
      passage.IsComplete collector.pageSize := by
  obtain ⟨run, hcourse, hrun⟩ := collector.run_course clock streams watch
  rw [hrun] at hok ⊢
  exact hcourse.isComplete_of_ok hok

/-- Single passes, each at its own time and over its own streams. -/
def singlePasses (times : List (Clock × Streams)) : List Call :=
  times.map fun (clock, streams) ↦ .once clock streams

theorem length_passages_singlePasses (collector : Collector) (times : List (Clock × Streams)) :
    (collector.passages (singlePasses times)).length = times.length := by
  induction times generalizing collector with
  | nil => rfl
  | cons time others ih => exact congrArg (· + 1) (ih _)

/-- Single passes over streams that never fail are complete. -/
theorem isComplete_singlePasses {collector : Collector} {times : List (Clock × Streams)}
    (hstreams : ∀ time ∈ times, time.2.NeverFail) :
    ∀ passage ∈ collector.passages (singlePasses times),
      passage.IsComplete collector.pageSize := by
  induction times generalizing collector with
  | nil => exact fun passage hpassage ↦ nomatch hpassage
  | cons time others ih =>
    obtain ⟨htime, hothers⟩ := List.forall_mem_cons.mp hstreams
    have hfirst := Pass.isComplete_of_neverFail collector.sources
      (time.1 collector.passes) collector.pageSize htime
    exact List.forall_mem_cons.mpr ⟨hfirst, ih hothers⟩

/-- A run has written to its streams what passages have added to theirs, but for the times. -/
structure Repeats (run : Run) (streams : Streams) (passages : List Passage) : Prop where
  out : ∃ text, run.streams.out.written = streams.out.written ++ text ∧
    SameButTimes text (passages.flatMap Passage.out)
  err : run.streams.err.written = streams.err.written ++ passages.flatMap Passage.err

/-- A run that ends because its parent is gone has written what as many single passes write. -/
theorem repeats_singlePasses {collector : Collector} {clock : Clock} {streams : Streams}
    {watch : Watch} {reason : Termination} {times : List (Clock × Streams)}
    (hok : (collector.run clock streams watch).outcome = .ok reason)
    (hpasses : (collector.run clock streams watch).collector.passes =
      collector.passes + times.length)
    (hcomplete : ∀ passage ∈ collector.passages (singlePasses times),
      passage.IsComplete collector.pageSize) :
    Repeats (collector.run clock streams watch) streams
      (collector.passages (singlePasses times)) := by
  have hrun := collector.consecutive_run clock streams watch
  have hrunComplete := isComplete_of_run_ok hok
  have hsingle := succession_passages collector (singlePasses times)
  have hlength : ((collector.run clock streams watch).passages clock).length =
      (collector.passages (singlePasses times)).length := by
    have hcount := collector.passes_run clock streams watch
    rw [List.countP_eq_length.mpr (by simpa using hrunComplete), hpasses] at hcount
    rw [length_passages_singlePasses]
    exact (Nat.add_left_cancel hcount).symm
  obtain ⟨hout, herr⟩ := hrun.written hrunComplete
  obtain ⟨huntimed, hmessages⟩ :=
    hrun.succession.sameButTimes hsingle hlength hrunComplete hcomplete
  refine ⟨⟨_, hout, ?_⟩, by rw [← hmessages]; exact herr⟩
  rw [hrun.succession.flatMap_out hrunComplete, hsingle.flatMap_out hcomplete]
  have hlines (passages : List Passage) :
      ∀ line ∈ passages.flatMap (·.metrics collector.pageSize), '\n' ∉ line := by
    intro line hline
    obtain ⟨passage, -, hmem⟩ := List.mem_flatMap.mp hline
    exact (Pass.isOneLine_of_mem_metricLines hmem).1
  exact sameButTimes_linesText (hlines _) (hlines _) huntimed

/-- Every pass in a history of a collector is free of that history, a run is passes each of which
takes up where the one before it has left off, and a run that ends because its parent is gone has
written what as many complete single passes write. -/
theorem historyFree_and_repeats (collector : Collector) :
    (∀ calls before passage after, collector.passages calls = before ++ passage :: after →
      HistoryFree collector before passage) ∧
    (∀ clock streams watch, Consecutive collector.pageSize ⟨collector.sources, streams⟩
      ((collector.run clock streams watch).passages clock)
      (collector.run clock streams watch).situation) ∧
    ∀ clock streams watch reason times,
      (collector.run clock streams watch).outcome = .ok reason →
      (collector.run clock streams watch).collector.passes = collector.passes + times.length →
      (∀ passage ∈ collector.passages (singlePasses times),
        passage.IsComplete collector.pageSize) →
      Repeats (collector.run clock streams watch) streams
        (collector.passages (singlePasses times)) :=
  ⟨fun _ _ _ _ hpassages ↦ historyFree_of_passages hpassages,
    fun clock streams watch ↦ collector.consecutive_run clock streams watch,
    fun _ _ _ _ _ hok hpasses hcomplete ↦ repeats_singlePasses hok hpasses hcomplete⟩

/-- A table that is read in two versions is written twice, with a sleep of two slices behind each
pass, like in two single passes at other times. Had the first single pass met a stream that takes
nothing, then the second one would have found the first version of the table. -/
theorem two_passes_repeat_two_versions :
    let first : Text := "Tcp: OutRsts\nTcp: 5\n".toList
    let second : Text := "Tcp: OutRsts\nTcp: 6\n".toList
    let collector := ofSources
      ⟨.constant .directory, .ofVersions [.ofBytes first.toUtf8, .ofBytes second.toUtf8]⟩
      ⟨1500000000⟩ 4096
    let run := collector.run (fun passes ↦ 7 + passes) .unbounded (Watch.alive 6)
    let lap : List Action := [.asked true, .began, .asked true, .slept ⟨1000000000⟩, .asked true,
      .slept ⟨500000000⟩]
    let times : List (Clock × Streams) := [(fun _ ↦ 41, .unbounded), (fun _ ↦ 42, .unbounded)]
    let refusing : Streams := ⟨.unbounded, .empty (.lines 0) .noSpace none⟩
    Repeats run .unbounded (collector.passages (singlePasses times)) ∧
      run.actions = lap ++ lap ++ [.asked false] ∧
      run.streams.out.written = ("net.stat.tcp.resets 7 5 direction=out\n" ++
        "net.stat.tcp.resets 8 6 direction=out\n").toList ∧
      (collector.passages (singlePasses times)).flatMap Passage.out =
        ("net.stat.tcp.resets 41 5 direction=out\n" ++
          "net.stat.tcp.resets 42 6 direction=out\n").toList ∧
      ∃ aborted later,
        collector.passages (singlePasses [(fun _ ↦ 41, refusing), (fun _ ↦ 42, .unbounded)]) =
          [aborted, later] ∧ HistoryFree collector [aborted] later ∧
        later.out = "net.stat.tcp.resets 42 5 direction=out\n".toList ∧
        later.left.sources.sockstat.rewinds = 2 ∧ later.left.sources.netstat.rewinds = 1 := by
  intro first second collector run lap times refusing
  obtain ⟨hok, hpasses, hactions, hout⟩ : run.outcome = .ok .parentGone ∧
      run.collector.passes = collector.passes + times.length ∧
      run.actions = lap ++ lap ++ [.asked false] ∧
      run.streams.out.written = ("net.stat.tcp.resets 7 5 direction=out\n" ++
        "net.stat.tcp.resets 8 6 direction=out\n").toList := by
    decide +kernel
  have hstreams : Streams.unbounded.NeverFail := ⟨⟨rfl, rfl⟩, ⟨rfl, rfl⟩⟩
  have hcomplete : ∀ passage ∈ collector.passages (singlePasses times),
      passage.IsComplete collector.pageSize :=
    isComplete_singlePasses (by simpa [times] using hstreams)
  refine ⟨collector.historyFree_and_repeats.2.2 _ _ _ _ times hok hpasses hcomplete, hactions,
    hout, ?_, ?_⟩
  · decide +kernel
  · let aborting : List (Clock × Streams) := [(fun _ ↦ 41, refusing), (fun _ ↦ 42, .unbounded)]
    have hfree := collector.historyFree_and_repeats.1 (singlePasses aborting) [_] _ [] rfl
    refine ⟨_, _, rfl, hfree, ?_⟩
    decide +kernel

end SocketMetrics.Collector
