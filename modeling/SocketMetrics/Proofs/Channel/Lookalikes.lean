import Mathlib.Algebra.BigOperators.Group.List.Basic
import Mathlib.Algebra.GroupWithZero.Nat
import SocketMetrics.Channel.Emitter
import SocketMetrics.Proofs.Text.Quoted
/-!
# Messages that a stream cannot tell apart

Whether a sink takes a text depends on little of it: whether it is empty, how many line feeds are in
it and, for a sink that bounds the bytes that are pending, how many bytes it takes.
`Capacity.Confuses` says that two texts agree in this. Two emitters that differ only in messages of
this kind stay so (`Emitter.Alike`): when one entry is written to each (`Emitter.Alike.write`) and
therefore when lists of entries are delivered (`Emitter.Alike.deliver`), the same entries are
written, the output streams receive the same text and the error streams the same number of lines.
-/

set_option autoImplicit false
set_option relaxedAutoImplicit false

namespace SocketMetrics

namespace Text

/-! ### Counting characters -/

theorem byteCount_eq_sum (text : Text) : text.byteCount = (text.map Char.utf8Size).sum := by
  have hfold (start : ℕ) : text.foldl (fun count c ↦ count + c.utf8Size) start =
      start + (text.map Char.utf8Size).sum := by
    induction text generalizing start with
    | nil => rfl
    | cons c rest ih => rw [List.foldl_cons, ih, List.map_cons, List.sum_cons, Nat.add_assoc]
  rw [byteCount, hfold, Nat.zero_add]

theorem byteCount_append (first second : Text) :
    byteCount (first ++ second) = first.byteCount + second.byteCount := by
  simp [byteCount_eq_sum]

theorem lineFeeds_append (first second : Text) :
    lineFeeds (first ++ second) = first.lineFeeds + second.lineFeeds :=
  List.count_append ..

/-- Quoting goes character by character. -/
theorem perm_quote {one other : Text} (hperm : one.Perm other) : one.quote.Perm other.quote :=
  ((hperm.flatMap_right escape).append_right _).cons _

end Text

namespace Channel

/-! ### Texts -/

/-- A sink of the capacity cannot tell the texts apart. -/
structure Capacity.Confuses (capacity : Capacity) (one other : Text) : Prop where
  nil_iff : one = [] ↔ other = []
  lineFeeds_eq : one.lineFeeds = other.lineFeeds
  byteCount_eq : ∀ limit, capacity = .pending limit → one.byteCount = other.byteCount

namespace Capacity

variable {capacity : Capacity} {one other : Text}

theorem confuses_refl (capacity : Capacity) (text : Text) : capacity.Confuses text text :=
  ⟨Iff.rfl, rfl, fun _ _ ↦ rfl⟩

theorem Confuses.append {first second : Text} (hfront : capacity.Confuses one other)
    (hback : capacity.Confuses first second) :
    capacity.Confuses (one ++ first) (other ++ second) where
  nil_iff := by
    rw [List.append_eq_nil_iff, List.append_eq_nil_iff, hfront.nil_iff, hback.nil_iff]
  lineFeeds_eq := by
    rw [Text.lineFeeds_append, Text.lineFeeds_append, hfront.lineFeeds_eq, hback.lineFeeds_eq]
  byteCount_eq limit hlimit := by
    rw [Text.byteCount_append, Text.byteCount_append, hfront.byteCount_eq limit hlimit,
      hback.byteCount_eq limit hlimit]

/-- Quoted texts are told apart by their bytes at most. -/
theorem confuses_quote (hperm : ∀ limit, capacity = .pending limit → one.Perm other) :
    capacity.Confuses one.quote other.quote where
  nil_iff := iff_of_false (List.cons_ne_nil _ _) (List.cons_ne_nil _ _)
  lineFeeds_eq := by
    rw [Text.lineFeeds, Text.lineFeeds,
      List.count_eq_zero_of_not_mem (Text.lineFeed_not_mem_quote one),
      List.count_eq_zero_of_not_mem (Text.lineFeed_not_mem_quote other)]
  byteCount_eq limit hlimit := by
    rw [Text.byteCount_eq_sum, Text.byteCount_eq_sum]
    exact ((Text.perm_quote (hperm limit hlimit)).map _).sum_eq

end Capacity

/-! ### Sinks -/

/-- The sinks have the capacity and differ only in texts that it cannot tell apart. -/
structure Sink.Alike (capacity : Capacity) (one other : Sink) : Prop where
  capacity_left : one.capacity = capacity
  capacity_right : other.capacity = capacity
  full_eq : one.full = other.full
  written : one.written.lineFeeds = other.written.lineFeeds
  pending : capacity.Confuses one.pending other.pending

namespace Sink.Alike

variable {capacity : Capacity} {one other : Sink} {text text' : Text}

theorem refl (sink : Sink) : Sink.Alike sink.capacity sink sink :=
  ⟨rfl, rfl, rfl, rfl, Capacity.confuses_refl _ _⟩

theorem append (halike : Sink.Alike capacity one other) (htext : capacity.Confuses text text') :
    Sink.Alike capacity (one.append text) (other.append text') where
  capacity_left := halike.capacity_left
  capacity_right := halike.capacity_right
  full_eq := halike.full_eq
  written := by
    rw [Sink.append, Sink.append, Text.lineFeeds_append, Text.lineFeeds_append, halike.written,
      htext.lineFeeds_eq]
  pending := halike.pending.append htext

theorem takes_eq (halike : Sink.Alike capacity one other) (htext : capacity.Confuses text text') :
    one.takes text = other.takes text' := by
  have hempty : text.isEmpty = text'.isEmpty := by
    rw [Bool.eq_iff_iff, List.isEmpty_iff, List.isEmpty_iff, htext.nil_iff]
  rw [takes, takes, hempty, halike.capacity_left, halike.capacity_right]
  cases hcapacity : capacity with
  | unbounded => rfl
  | lines limit => simp only [halike.written]
  | pending limit =>
    simp only [halike.pending.byteCount_eq limit hcapacity, htext.byteCount_eq limit hcapacity]

/-- Of two texts that they cannot tell apart the sinks take both or none. -/
theorem write (halike : Sink.Alike capacity one other) (htext : capacity.Confuses text text') :
    (one.write text).2 = (other.write text').2 ∧
      Sink.Alike capacity (one.write text).1 (other.write text').1 := by
  have htakes := halike.takes_eq htext
  unfold Sink.write
  by_cases htaken : other.takes text' = true
  · rw [if_pos htaken, if_pos (htakes.trans htaken)]
    exact ⟨rfl, halike.append htext⟩
  · rw [if_neg htaken, if_neg (htakes ▸ htaken), halike.full_eq]
    exact ⟨rfl, halike⟩

/-- Of two lines that they cannot tell apart the sinks take the same parts. -/
theorem writeLine (halike : Sink.Alike capacity one other) (htext : capacity.Confuses text text') :
    (one.writeLine text).2 = (other.writeLine text').2 ∧
      Sink.Alike capacity (one.writeLine text).1 (other.writeLine text').1 := by
  obtain ⟨hfault, hafter⟩ := halike.write htext
  unfold Sink.writeLine
  rcases hone : one.write text with ⟨first, fault⟩
  rcases hother : other.write text' with ⟨second, fault'⟩
  rw [hone, hother] at hfault hafter
  obtain rfl : fault = fault' := hfault
  cases fault with
  | none => exact hafter.write (Capacity.confuses_refl _ _)
  | some fault => exact ⟨rfl, hafter⟩

end Sink.Alike

/-! ### Emitters -/

/-- The entries are the same metric, or messages that a sink of the capacity cannot tell apart. -/
inductive Entry.Alike (capacity : Capacity) : Entry → Entry → Prop where
  | metric (sample : Sample) : Alike capacity (.metric sample) (.metric sample)
  | diagnostic {message message' : Text} (hmessage : capacity.Confuses message message') :
      Alike capacity (.diagnostic message) (.diagnostic message')

theorem Entry.alike_refl (capacity : Capacity) (entry : Entry) :
    Entry.Alike capacity entry entry := by
  cases entry with
  | metric sample => exact .metric sample
  | diagnostic message => exact .diagnostic (Capacity.confuses_refl _ _)

/-- The emitters differ only in messages that their error streams cannot tell apart. -/
structure Emitter.Alike (capacity : Capacity) (one other : Emitter) : Prop where
  out_eq : one.streams.out = other.streams.out
  err : Sink.Alike capacity one.streams.err other.streams.err

namespace Emitter.Alike

variable {capacity : Capacity} {one other : Emitter}

/-- Of two entries that they cannot tell apart the emitters write the same parts. -/
theorem write (halike : Emitter.Alike capacity one other) {entry entry' : Entry}
    (hentry : Entry.Alike capacity entry entry') :
    (one.write entry).2 = (other.write entry').2 ∧
      Emitter.Alike capacity (one.write entry).1 (other.write entry').1 := by
  cases hentry with
  | metric sample =>
    rcases hother : other.streams.out.writeLine sample.line with ⟨out, fault⟩
    have hone : one.streams.out.writeLine sample.line = (out, fault) := halike.out_eq ▸ hother
    cases fault <;> simp only [Emitter.write, hone, hother, true_and] <;>
      exact ⟨rfl, halike.err⟩
  | @diagnostic message message' hmessage =>
    obtain ⟨hfault, hafter⟩ := halike.err.writeLine hmessage
    rcases hone : one.streams.err.writeLine message with ⟨err, fault⟩
    rcases hother : other.streams.err.writeLine message' with ⟨err', fault'⟩
    rw [hone, hother] at hfault hafter
    obtain rfl : fault = fault' := hfault
    cases fault <;> simp only [Emitter.write, hone, hother, true_and] <;>
      exact ⟨halike.out_eq, hafter⟩

/-- Of two lists of entries that they cannot tell apart the emitters write the same parts. -/
theorem deliver (halike : Emitter.Alike capacity one other) {entries entries' : List Entry}
    (hentries : List.Forall₂ (Entry.Alike capacity) entries entries') :
    (one.deliver entries).2 = (other.deliver entries').2 ∧
      Emitter.Alike capacity (one.deliver entries).1 (other.deliver entries').1 := by
  induction hentries generalizing one other with
  | nil => exact ⟨rfl, halike⟩
  | @cons entry entry' rest rest' hentry _ ih =>
    obtain ⟨hfault, hafter⟩ := halike.write hentry
    rcases hone : one.write entry with ⟨first, fault⟩
    rcases hother : other.write entry' with ⟨second, fault'⟩
    rw [hone, hother] at hfault hafter
    obtain rfl : fault = fault' := hfault
    cases fault with
    | none =>
      simp only [Emitter.deliver, hone, hother]
      exact ih hafter
    | some fault =>
      simp only [Emitter.deliver, hone, hother, true_and]
      exact hafter

end Emitter.Alike

end Channel

end SocketMetrics
