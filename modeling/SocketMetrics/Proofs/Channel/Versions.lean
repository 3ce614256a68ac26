import Mathlib.Data.Nat.Init
import SocketMetrics.Channel.Source
/-!
# The versions that a source comes to

`Source.versionAfter` is the version that a source shows when it has been rewound so many times; the
last version stays. `Source.IsAhead` says of a state of a source that it lies so many rewinds behind
another one. Where a source stands in its version, and so what was read of it before, makes no
difference to the versions to come: every rewinding moves it by one (`isAhead_rewind`), reading does
not move it at all (`isAhead_reread`), and moves add up (`IsAhead.trans`). The pieces in which a
version is read make no difference to its content (`Version.SameData.content_eq`).
-/

set_option autoImplicit false
set_option relaxedAutoImplicit false

namespace SocketMetrics.Channel

/-- The versions hold the same bytes, in pieces that may differ, and fail alike. -/
structure Version.SameData (one other : Version) : Prop where
  bytes_eq : one.chunks.flatten = other.chunks.flatten
  rewindFault_eq : one.rewindFault = other.rewindFault
  readFault_eq : one.readFault = other.readFault

theorem Version.SameData.content_eq {one other : Version} (hsame : one.SameData other) :
    one.content = other.content := by
  unfold content
  rw [hsame.bytes_eq, hsame.rewindFault_eq, hsame.readFault_eq]

namespace Source

/-- The version that the source shows when it has been rewound so many times. -/
def versionAfter (source : Source) (rewinds : ℕ) : Version :=
  (source.upcoming.take rewinds).getLastD source.current

example (first second : Version) :
    (List.range 4).map (ofVersions [first, second]).versionAfter =
      [.empty, first, second, second] :=
  rfl

/-- Another state of the source, which it comes to by being rewound so many times. -/
structure IsAhead (source : Source) (times : ℕ) (later : Source) : Prop where
  rewinds_eq : later.rewinds = source.rewinds + times
  versionAfter_eq : ∀ more, later.versionAfter more = source.versionAfter (times + more)

variable {source later last : Source} {times more : ℕ}

theorem isAhead_refl (source : Source) : source.IsAhead 0 source :=
  ⟨rfl, fun more ↦ by rw [Nat.zero_add]⟩

theorem IsAhead.trans (hlater : source.IsAhead times later) (hlast : later.IsAhead more last) :
    source.IsAhead (times + more) last where
  rewinds_eq := by rw [hlast.rewinds_eq, hlater.rewinds_eq, Nat.add_assoc]
  versionAfter_eq others := by
    rw [hlast.versionAfter_eq, hlater.versionAfter_eq, Nat.add_assoc]

/-- Rewinding brings up the next version. -/
theorem versionAfter_rewind (source : Source) (more : ℕ) :
    source.rewind.versionAfter more = source.versionAfter (1 + more) := by
  unfold versionAfter rewind
  rw [Nat.add_comm 1 more]
  cases source.upcoming with
  | nil => simp
  | cons version others =>
    rw [List.headD_cons, List.tail_cons, List.take_succ_cons, List.getLastD_cons]

theorem isAhead_rewind (source : Source) : source.IsAhead 1 source.rewind :=
  ⟨rfl, source.versionAfter_rewind⟩

/-- Reading a source leaves it in the version that it was rewound to. -/
theorem isAhead_reread (source : Source) : source.IsAhead 1 source.reread.source := by
  cases hfault : source.rewind.current.rewindFault with
  | some fault =>
    have hreread : source.reread.source = source.rewind := by
      simp only [reread, hfault]
    rw [hreread]
    exact source.isAhead_rewind
  | none =>
    have hreread : source.reread.source = { source.rewind with unread := [] } := by
      simp only [reread, hfault]
    rw [hreread]
    exact ⟨rfl, source.versionAfter_rewind⟩

/-- The text that a source shows next is that of its next version. -/
theorem IsAhead.content_rewind (hlater : source.IsAhead times later) :
    later.rewind.current.content = (source.versionAfter (times + 1)).content :=
  congrArg Version.content
    ((later.versionAfter_rewind 0).trans (hlater.versionAfter_eq 1))

end Source

end SocketMetrics.Channel
