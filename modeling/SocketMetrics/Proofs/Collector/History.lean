import SocketMetrics.Proofs.Collector.Calls
/-!
# Passes without a history

A collector keeps its sources open, so that a pass finds them wherever the passes before it have
left them, read to the end or stopped on the way. It makes no difference: a pass moves the summary
by one version, and then the table unless the summary could not be written
(`Passage.isAhead_of_isPass`), and the moves of all passes add up (`Succession.isAhead`). A pass is
therefore `HistoryFree`: what it writes is what a pass would write over sources that have just been
opened and show the versions that its own sources have come to.
-/

set_option autoImplicit false
set_option relaxedAutoImplicit false

namespace SocketMetrics

open Channel

namespace Collector

variable {pageSize : UInt64}

/-! ### Moving the sources -/

/-- A pass moves the summary by one version, and the table unless the summary is not written. -/
theorem Passage.isAhead_of_isPass {passage : Passage} (hpass : passage.IsPass pageSize) :
    passage.found.sources.sockstat.IsAhead 1 passage.left.sources.sockstat ∧
      passage.found.sources.netstat.IsAhead (if passage.WritesSummary pageSize then 1 else 0)
        passage.left.sources.netstat := by
  have hsources : passage.left.sources = (passage.pass pageSize).sources :=
    congrArg Situation.sources hpass
  rw [hsources]
  by_cases hsummary : passage.WritesSummary pageSize
  · rw [if_pos hsummary, Passage.pass, Pass.sources_run_of_writesSummary hsummary]
    exact ⟨Source.isAhead_reread _, Source.isAhead_reread _⟩
  · obtain ⟨emitter, fault, -, hrun⟩ := Pass.run_of_not_writesSummary hsummary
    rw [if_neg hsummary, Passage.pass, hrun]
    exact ⟨Source.isAhead_reread _, Source.isAhead_refl _⟩

/-- Passes move the summary once each, and the table once for every summary written. -/
theorem Succession.isAhead {first last : Sources} {passages : List Passage}
    (hpassages : Succession pageSize first passages last) :
    first.sockstat.IsAhead passages.length last.sockstat ∧
      first.netstat.IsAhead (passages.countP (·.WritesSummary pageSize)) last.netstat := by
  induction hpassages with
  | nil sources => exact ⟨Source.isAhead_refl _, Source.isAhead_refl _⟩
  | @cons passage others last hpass hothers ih =>
    obtain ⟨hsockstat, hnetstat⟩ := Passage.isAhead_of_isPass hpass
    have hcount : (passage :: others).countP (·.WritesSummary pageSize) =
        (if passage.WritesSummary pageSize then 1 else 0) +
          others.countP (·.WritesSummary pageSize) := by
      rw [List.countP_cons, Nat.add_comm]
      simp only [decide_eq_true_eq]
    rw [List.length_cons, Nat.add_comm, hcount]
    exact ⟨hsockstat.trans ih.1, hnetstat.trans ih.2⟩

/-- A pass in a succession finds what the passes before it have left. -/
theorem Succession.of_append {first last : Sources} {before after : List Passage}
    {passage : Passage}
    (hpassages : Succession pageSize first (before ++ passage :: after) last) :
    Succession pageSize first before passage.found.sources ∧ passage.IsPass pageSize := by
  induction before generalizing first with
  | nil =>
    cases hpassages with
    | cons hpass hothers => exact ⟨.nil _, hpass⟩
  | cons other before ih =>
    cases hpassages with
    | cons hother hothers =>
      obtain ⟨hbefore, hpass⟩ := ih hothers
      exact ⟨.cons hother hbefore, hpass⟩

/-! ### What a pass depends on -/

/-- A pass writes the same over other sources that show the same texts next. -/
theorem Passage.streams_eq_of_nextContent {passage : Passage} (hpass : passage.IsPass pageSize)
    {others : Sources}
    (hsockstat : Pass.nextContent passage.found.sources.sockstat =
      Pass.nextContent others.sockstat)
    (hnetstat : passage.WritesSummary pageSize →
      Pass.nextContent passage.found.sources.netstat = Pass.nextContent others.netstat) :
    passage.left.streams =
      (Pass.run others passage.found.streams passage.timestamp pageSize).streams :=
  (congrArg Situation.streams hpass).trans (Pass.run_congr hsockstat hnetstat).1

/-- A pass of a collector behind other ones, whatever these have read, written or failed at. -/
structure HistoryFree (collector : Collector) (before : List Passage) (passage : Passage) :
    Prop where
  /-- The summary has been rewound by the passes before it and by nothing else. -/
  found_sockstat : passage.found.sources.sockstat.rewinds =
    collector.sources.sockstat.rewinds + before.length
  /-- The table has been rewound by those passes before it that wrote their summaries. -/
  found_netstat : passage.found.sources.netstat.rewinds =
    collector.sources.netstat.rewinds + before.countP (·.WritesSummary collector.pageSize)
  /-- The pass rewinds the summary once. -/
  sockstat_rewinds : passage.left.sources.sockstat.rewinds =
    passage.found.sources.sockstat.rewinds + 1
  /-- The pass then rewinds the table once unless it cannot write the summary. -/
  netstat_rewinds : passage.left.sources.netstat.rewinds =
    passage.found.sources.netstat.rewinds +
      if passage.WritesSummary collector.pageSize then 1 else 0
  /-- As long as no stream fails the sources keep in step, with one version for each pass. -/
  in_step : (∀ other ∈ before ++ [passage], other.IsComplete collector.pageSize) →
    (before ++ [passage]).countP (·.WritesSummary collector.pageSize) = before.length + 1
  /-- The pass writes what a pass writes to the same streams that finds the versions which the
  sources have come to in sources just opened, in whatever pieces they are read. -/
  fresh : ∀ {summary table : Version},
    summary.SameData (collector.sources.sockstat.versionAfter (before.length + 1)) →
    table.SameData (collector.sources.netstat.versionAfter
      ((before ++ [passage]).countP (·.WritesSummary collector.pageSize))) →
    passage.left.streams = (Pass.run ⟨.constant summary, .constant table⟩ passage.found.streams
      passage.timestamp collector.pageSize).streams

/-- No pass of a collector depends on the passes before it. -/
theorem historyFree_of_passages {collector : Collector} {calls : List Call}
    {before after : List Passage} {passage : Passage}
    (hpassages : collector.passages calls = before ++ passage :: after) :
    HistoryFree collector before passage := by
  have hall := succession_passages collector calls
  rw [hpassages] at hall
  obtain ⟨hbefore, hpass⟩ := hall.of_append
  obtain ⟨hsockstat, hnetstat⟩ := hbefore.isAhead
  obtain ⟨hsummary, htable⟩ := Passage.isAhead_of_isPass hpass
  refine ⟨hsockstat.rewinds_eq, hnetstat.rewinds_eq, hsummary.rewinds_eq, htable.rewinds_eq, ?_, ?_⟩
  · intro hcomplete
    have hwrites : ∀ other ∈ before ++ [passage], other.WritesSummary collector.pageSize :=
      fun other hother ↦ (hcomplete other hother).writesSummary
    rw [List.countP_eq_length.mpr (by simpa using hwrites), List.length_append,
      List.length_singleton]
  · intro summary table hsameSummary hsameTable
    refine Passage.streams_eq_of_nextContent hpass ?_ fun hwrites ↦ ?_
    · change _ = summary.content
      rw [hsameSummary.content_eq]
      exact hsockstat.content_rewind
    · change _ = table.content
      rw [hsameTable.content_eq, List.countP_append, List.countP_singleton,
        if_pos (decide_eq_true hwrites)]
      exact hnetstat.content_rewind

end Collector

end SocketMetrics
