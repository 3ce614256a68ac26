import SocketMetrics.Proofs.Channel.Versions
import SocketMetrics.Proofs.Pass.Delivery
/-!
# What a pass takes from its sources

A pass rewinds the summary once, and then the table once (`sources_run_of_writesSummary`) unless the
summary could not be written (`run_of_not_writesSummary`). It takes nothing from them but the texts
that they show next: two passes over the same streams whose sources show the same texts write the
same and end alike, and what the table shows is of no account when the summary cannot be written
(`run_congr`). A pass `IsComplete` when all of its entries are written and both streams flushed;
these are the passes that succeed (`isComplete_iff`), and what such a pass leaves is known exactly
(`run_of_isComplete`).
-/

set_option autoImplicit false
set_option relaxedAutoImplicit false

namespace SocketMetrics

open Channel

/-- A flush that meets no fault has flushed both streams. -/
theorem Channel.Emitter.eq_flushed_of_flush {emitter flushed : Emitter}
    (hflush : emitter.flush = (flushed, none)) :
    flushed = emitter.flushed ∧ emitter.streams.out.flush.2 = none ∧
      emitter.streams.err.flush.2 = none := by
  cases hout : emitter.streams.out.flushObstacle? with
  | some fault =>
    rw [Emitter.flush_of_out_fails hout] at hflush
    cases hflush
  | none =>
    cases herr : emitter.streams.err.flushObstacle? with
    | some fault =>
      rw [Emitter.flush_of_err_fails hout herr] at hflush
      cases hflush
    | none =>
      rw [Emitter.flush_of_obstacle?_eq_none hout herr] at hflush
      cases hflush
      simp [Sink.flush, hout, herr]

namespace Pass

variable {sources others : Sources} {streams : Streams} {timestamp : Int} {pageSize : UInt64}

/-! ### Rewinding -/

/-- Every entry about the summary is written. -/
def WritesSummary (sources : Sources) (streams : Streams) (timestamp : Int) (pageSize : UInt64) :
    Prop :=
  ((Emitter.start streams timestamp).deliver
    (sockstatPart timestamp pageSize (nextContent sources.sockstat)).entries).2 = none

instance : Decidable (WritesSummary sources streams timestamp pageSize) :=
  inferInstanceAs (Decidable (_ = none))

/-- A pass that cannot write its summary ends there. -/
theorem run_of_not_writesSummary
    (hsummary : ¬ WritesSummary sources streams timestamp pageSize) :
    ∃ emitter fault, (Emitter.start streams timestamp).deliver
        (sockstatPart timestamp pageSize (nextContent sources.sockstat)).entries =
          (emitter, some fault) ∧
      run sources streams timestamp pageSize =
        failed ⟨sources.sockstat.reread.source, sources.netstat⟩ emitter fault := by
  unfold WritesSummary nextContent at *
  rcases hdeliver : (Emitter.start streams timestamp).deliver (sockstatPart timestamp pageSize
    sources.sockstat.rewind.current.content).entries with ⟨emitter, - | fault⟩
  · rw [hdeliver] at hsummary
    exact absurd rfl hsummary
  · refine ⟨emitter, fault, rfl, ?_⟩
    unfold run
    simp only [Source.content_reread, hdeliver]

/-- A pass that writes its summary rewinds and reads both sources. -/
theorem sources_run_of_writesSummary
    (hsummary : WritesSummary sources streams timestamp pageSize) :
    (run sources streams timestamp pageSize).sources =
      ⟨sources.sockstat.reread.source, sources.netstat.reread.source⟩ := by
  unfold WritesSummary nextContent at hsummary
  unfold run
  simp only [Source.content_reread]
  split
  · next hdeliver =>
    rw [hdeliver] at hsummary
    cases hsummary
  · split
    · rfl
    · split <;> rfl

/-- What a pass writes and how it ends depend on the texts that its sources show next, and on that
of the table only if the summary is written. -/
theorem run_congr (hsockstat : nextContent sources.sockstat = nextContent others.sockstat)
    (hnetstat : WritesSummary sources streams timestamp pageSize →
      nextContent sources.netstat = nextContent others.netstat) :
    (run sources streams timestamp pageSize).streams =
        (run others streams timestamp pageSize).streams ∧
      (run sources streams timestamp pageSize).outcome =
        (run others streams timestamp pageSize).outcome := by
  by_cases hsummary : WritesSummary sources streams timestamp pageSize
  · have hentries : allEntries sources timestamp pageSize =
        allEntries others timestamp pageSize := by
      rw [allEntries, allEntries, hsockstat, hnetstat hsummary]
    have hreport : fullReport sources timestamp pageSize =
        fullReport others timestamp pageSize := by
      rw [fullReport, fullReport, hentries, hsockstat, hnetstat hsummary]
    rcases hdeliver : (Emitter.start streams timestamp).deliver
      (allEntries sources timestamp pageSize) with ⟨delivered, - | fault⟩
    · have hothers := hentries ▸ hdeliver
      rw [run_of_delivered hdeliver, run_of_delivered hothers, hreport]
      split <;> exact ⟨rfl, rfl⟩
    · have hothers := hentries ▸ hdeliver
      rw [(run_of_stopped hdeliver).1, (run_of_stopped hdeliver).2, (run_of_stopped hothers).1,
        (run_of_stopped hothers).2]
      exact ⟨rfl, rfl⟩
  · have hothers : ¬ WritesSummary others streams timestamp pageSize := by
      unfold WritesSummary at hsummary ⊢
      rwa [← hsockstat]
    obtain ⟨emitter, fault, hdeliver, hrun⟩ := run_of_not_writesSummary hsummary
    obtain ⟨other, otherFault, hotherDeliver, hotherRun⟩ := run_of_not_writesSummary hothers
    rw [hsockstat, hotherDeliver] at hdeliver
    cases hdeliver
    rw [hrun, hotherRun]
    exact ⟨rfl, rfl⟩

/-! ### Passes that succeed -/

/-- Every entry of the pass is written and both streams are flushed. -/
def IsComplete (sources : Sources) (streams : Streams) (timestamp : Int) (pageSize : UInt64) :
    Prop :=
  let delivery := (Emitter.start streams timestamp).deliver (allEntries sources timestamp pageSize)
  delivery.2 = none ∧ delivery.1.streams.out.flush.2 = none ∧
    delivery.1.streams.err.flush.2 = none

instance : Decidable (IsComplete sources streams timestamp pageSize) :=
  inferInstanceAs (Decidable (_ ∧ _ ∧ _))

theorem run_of_isComplete (hcomplete : IsComplete sources streams timestamp pageSize) :
    run sources streams timestamp pageSize =
      ⟨⟨sources.sockstat.reread.source, sources.netstat.reread.source⟩,
        (finalEmitter sources streams timestamp pageSize).streams,
        .ok (fullReport sources timestamp pageSize),
        [(fullReport sources timestamp pageSize).record]⟩ := by
  obtain ⟨hdelivery, hout, herr⟩ := hcomplete
  rcases hdeliver : (Emitter.start streams timestamp).deliver
    (allEntries sources timestamp pageSize) with ⟨delivered, fault⟩
  simp only [hdeliver] at hdelivery hout herr
  subst hdelivery
  have hobstacle (sink : Sink) (hflush : sink.flush.2 = none) : sink.flushObstacle? = none := by
    unfold Sink.flush at hflush
    split at hflush
    · cases hflush
    · assumption
  rw [run_of_delivered hdeliver,
    Emitter.flush_of_obstacle?_eq_none (hobstacle _ hout) (hobstacle _ herr),
    Emitter.eq_deliveredAll_of_deliver hdeliver]
  rfl

/-- The passes that succeed are the complete ones. -/
theorem isComplete_iff : IsComplete sources streams timestamp pageSize ↔
    ∃ report, (run sources streams timestamp pageSize).outcome = .ok report := by
  constructor
  · intro hcomplete
    rw [run_of_isComplete hcomplete]
    exact ⟨_, rfl⟩
  · rintro ⟨report, hok⟩
    obtain ⟨hdeliver, -⟩ := run_of_ok hok
    rw [run_of_delivered hdeliver] at hok
    unfold IsComplete
    rw [hdeliver]
    split at hok
    · cases hok
    · next flushed hflush =>
      obtain ⟨-, hout, herr⟩ := Emitter.eq_flushed_of_flush hflush
      exact ⟨rfl, hout, herr⟩

theorem isComplete_of_neverFail (sources : Sources) (timestamp : Int) (pageSize : UInt64)
    (hstreams : streams.NeverFail) : IsComplete sources streams timestamp pageSize := by
  rw [isComplete_iff, run_eq_of_neverFail sources timestamp pageSize hstreams]
  exact ⟨_, rfl⟩

/-- A complete pass writes its summary. -/
theorem IsComplete.writesSummary (hcomplete : IsComplete sources streams timestamp pageSize) :
    WritesSummary sources streams timestamp pageSize := by
  have hdelivery := hcomplete.1
  rw [allEntries, Emitter.deliver_append] at hdelivery
  unfold WritesSummary
  split at hdelivery
  · next hsummary => rw [hsummary]
  · exact hdelivery

end Pass

end SocketMetrics
