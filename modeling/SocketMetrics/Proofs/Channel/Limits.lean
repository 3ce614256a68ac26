import Mathlib.Data.List.Basic
import SocketMetrics.Proofs.Channel.Failure
/-!
# Delivering entries to streams that hold so many lines

A sink that `LimitsLines` refuses lines only for their number: `Sink.HasRoomFor` counts the lines
that it still takes. An entry that is a single line is then written as a whole or not at all
(`Emitter.write_of_haveRoomFor`, `Emitter.write_of_not_haveRoomFor`). A delivery therefore writes
the longest beginning of its entries for which both streams have room, and the stream of the next
entry gives the fault (`Emitter.deliver_of_limitLines`).
-/

set_option autoImplicit false
set_option relaxedAutoImplicit false

namespace SocketMetrics.Channel

/-! ### Room in a sink -/

/-- The sink refuses no text for its bytes. -/
def Sink.LimitsLines (sink : Sink) : Prop :=
  ∀ limit, sink.capacity ≠ .pending limit

/-- So many more lines fit into the sink. -/
def Sink.HasRoomFor (sink : Sink) (count : Nat) : Prop :=
  ∀ limit, sink.capacity = .lines limit → count ≤ limit - sink.written.lineFeeds

namespace Sink

@[simp] theorem hasRoomFor_zero (sink : Sink) : sink.HasRoomFor 0 :=
  fun _ _ ↦ Nat.zero_le _

theorem HasRoomFor.mono {sink : Sink} {fewer count : Nat} (hroom : sink.HasRoomFor count)
    (hfewer : fewer ≤ count) : sink.HasRoomFor fewer :=
  fun limit hcapacity ↦ Nat.le_trans hfewer (hroom limit hcapacity)

theorem LimitsLines.append {sink : Sink} (hlimits : sink.LimitsLines) (text : Text) :
    (sink.append text).LimitsLines :=
  hlimits

/-- Only its flush fault stands in the way of a flush. -/
theorem LimitsLines.flushObstacle?_eq {sink : Sink} (hlimits : sink.LimitsLines) :
    sink.flushObstacle? = sink.flushFault := by
  unfold flushObstacle?
  cases sink.flushFault with
  | some fault => rfl
  | none =>
    cases hcapacity : sink.capacity with
    | unbounded => rfl
    | lines limit => rfl
    | pending limit => exact absurd hcapacity (hlimits limit)

/-- A sink with room for a line takes text. -/
theorem takes_of_hasRoomFor {sink : Sink} (hlimits : sink.LimitsLines) (hroom : sink.HasRoomFor 1)
    (text : Text) : sink.takes text = true := by
  unfold takes
  cases hcapacity : sink.capacity with
  | unbounded => simp
  | lines limit =>
    have hbelow := hroom limit hcapacity
    simp only [Bool.or_eq_true, decide_eq_true_eq]
    right
    omega
  | pending limit => exact absurd hcapacity (hlimits limit)

/-- A sink without room for a line takes no text but the empty one. -/
theorem takes_of_not_hasRoomFor {sink : Sink} (hroom : ¬ sink.HasRoomFor 1) {text : Text}
    (htext : text ≠ []) : sink.takes text = false := by
  unfold HasRoomFor at hroom
  push Not at hroom
  obtain ⟨limit, hcapacity, hfull⟩ := hroom
  have hreached : ¬ sink.written.lineFeeds < limit := by omega
  simp [takes, hcapacity, htext, hreached]

variable {sink : Sink} {line : Text}

/-- A text without a line feed leaves as much room as there was. -/
theorem hasRoomFor_append (hline : '\n' ∉ line) (count : Nat) :
    (sink.append line).HasRoomFor count ↔ sink.HasRoomFor count := by
  simp [HasRoomFor, append, Text.lineFeeds, List.count_eq_zero_of_not_mem hline]

/-- A line takes the room of one line. -/
theorem hasRoomFor_append_line (hline : '\n' ∉ line) (hroom : sink.HasRoomFor 1) (count : Nat) :
    (sink.append (linesText [line])).HasRoomFor count ↔ sink.HasRoomFor (count + 1) := by
  have hfeeds : (sink.append (linesText [line])).written.lineFeeds =
      sink.written.lineFeeds + 1 := by
    simp [append, Text.lineFeeds, List.count_eq_zero_of_not_mem hline]
  unfold HasRoomFor
  rw [hfeeds]
  refine forall₂_congr fun limit hcapacity ↦ ?_
  have hbelow := hroom limit hcapacity
  omega

/-- A sink with room for a line takes the line in full. -/
theorem writeLine_of_hasRoomFor (hlimits : sink.LimitsLines) (hline : '\n' ∉ line)
    (hroom : sink.HasRoomFor 1) :
    sink.writeLine line = (sink.append (linesText [line]), none) := by
  have hend : (sink.append line).takes ['\n'] = true :=
    takes_of_hasRoomFor (hlimits.append line) ((hasRoomFor_append hline 1).mpr hroom) _
  simp [writeLine, write, takes_of_hasRoomFor hlimits hroom line, hend]

/-- A sink without room for a line takes nothing of it. -/
theorem writeLine_of_not_hasRoomFor (hroom : ¬ sink.HasRoomFor 1) :
    sink.writeLine line = (sink, some sink.full) := by
  have hend : sink.takes ['\n'] = false := takes_of_not_hasRoomFor hroom (by simp)
  cases line with
  | nil =>
    have hempty : sink.takes [] = true := by simp [takes]
    simp [writeLine, write, hempty, hend]
  | cons c rest =>
    have hline : sink.takes (c :: rest) = false := takes_of_not_hasRoomFor hroom (by simp)
    simp [writeLine, write, hline]

end Sink

/-! ### Room in two streams -/

namespace Streams

/-- Both streams refuse no text for its bytes. -/
structure LimitLines (streams : Streams) : Prop where
  out : streams.out.LimitsLines
  err : streams.err.LimitsLines

/-- The lines of the entries fit into their streams. -/
structure HaveRoomFor (streams : Streams) (entries : List Entry) : Prop where
  out : streams.out.HasRoomFor (metricLines entries).length
  err : streams.err.HasRoomFor (messageLines entries).length

/-- The longest beginning of the entries whose lines fit into their streams. -/
structure IsLongestFitting (streams : Streams) (entries written : List Entry) : Prop where
  beginning : written <+: entries
  fitting : streams.HaveRoomFor written
  longest : ∀ longer, longer <+: entries → streams.HaveRoomFor longer → longer <+: written

/-- The streams after entries have been written in full. -/
def after (streams : Streams) (entries : List Entry) : Streams where
  out := streams.out.append (linesText (metricLines entries))
  err := streams.err.append (linesText (messageLines entries))

variable {streams : Streams} {entry : Entry} {entries rest written : List Entry}

theorem LimitLines.after (hlimits : streams.LimitLines) (entries : List Entry) :
    (streams.after entries).LimitLines :=
  ⟨hlimits.out.append _, hlimits.err.append _⟩

theorem LimitLines.sinkOf (hlimits : streams.LimitLines) (entry : Entry) :
    (streams.sinkOf entry).LimitsLines := by
  cases entry with
  | metric sample => exact hlimits.out
  | diagnostic message => exact hlimits.err

/-- An entry fits when its stream has room for a line. -/
theorem haveRoomFor_singleton_iff :
    streams.HaveRoomFor [entry] ↔ (streams.sinkOf entry).HasRoomFor 1 := by
  cases entry with
  | metric sample => exact ⟨fun hfits ↦ hfits.out, fun hroom ↦ ⟨hroom, by simp [messageLines]⟩⟩
  | diagnostic message =>
    exact ⟨fun hfits ↦ hfits.err, fun hroom ↦ ⟨by simp [metricLines], hroom⟩⟩

theorem haveRoomFor_nil (streams : Streams) : streams.HaveRoomFor [] :=
  ⟨streams.out.hasRoomFor_zero, streams.err.hasRoomFor_zero⟩

/-- Entries fit when the first of them fits and then the others do. -/
theorem haveRoomFor_cons_iff (hentry : entry.IsOneLine) :
    streams.HaveRoomFor (entry :: rest) ↔
      streams.HaveRoomFor [entry] ∧ (streams.after [entry]).HaveRoomFor rest := by
  constructor
  · rintro ⟨hout, herr⟩
    cases entry with
    | metric sample =>
      have hroom : streams.out.HasRoomFor 1 := hout.mono (by simp [metricLines])
      refine ⟨⟨hroom, by simp [messageLines]⟩, ?_, ?_⟩
      · exact (Sink.hasRoomFor_append_line hentry hroom _).mpr hout
      · simpa [Streams.after, messageLines] using herr
    | diagnostic message =>
      have hroom : streams.err.HasRoomFor 1 := herr.mono (by simp [messageLines])
      refine ⟨⟨by simp [metricLines], hroom⟩, ?_, ?_⟩
      · simpa [Streams.after, metricLines] using hout
      · exact (Sink.hasRoomFor_append_line hentry hroom _).mpr herr
  · rintro ⟨⟨hout, herr⟩, houtRest, herrRest⟩
    cases entry with
    | metric sample =>
      refine ⟨(Sink.hasRoomFor_append_line hentry hout _).mp houtRest, ?_⟩
      simpa [Streams.after, messageLines] using herrRest
    | diagnostic message =>
      refine ⟨?_, (Sink.hasRoomFor_append_line hentry herr _).mp herrRest⟩
      simpa [Streams.after, metricLines] using houtRest

/-- An entry that fits stands in front of the longest beginning behind it. -/
theorem IsLongestFitting.cons (hentry : entry.IsOneLine) (hroom : streams.HaveRoomFor [entry])
    (hrest : (streams.after [entry]).IsLongestFitting rest written) :
    streams.IsLongestFitting (entry :: rest) (entry :: written) where
  beginning := by simpa using hrest.beginning
  fitting := (haveRoomFor_cons_iff hentry).mpr ⟨hroom, hrest.fitting⟩
  longest := by
    intro longer hlonger hfits
    cases longer with
    | nil => exact List.nil_prefix
    | cons first others =>
      obtain ⟨rfl, hothers⟩ := List.cons_prefix_cons.mp hlonger
      have hbehind := ((haveRoomFor_cons_iff hentry).mp hfits).2
      exact List.cons_prefix_cons.mpr ⟨rfl, hrest.longest others hothers hbehind⟩

/-- Nothing fits when the first entry does not. -/
theorem isLongestFitting_nil (hentry : entry.IsOneLine) (hroom : ¬ streams.HaveRoomFor [entry]) :
    streams.IsLongestFitting (entry :: rest) [] where
  beginning := List.nil_prefix
  fitting := streams.haveRoomFor_nil
  longest := by
    intro longer hlonger hfits
    cases longer with
    | nil => exact List.nil_prefix
    | cons first others =>
      obtain ⟨rfl, -⟩ := List.cons_prefix_cons.mp hlonger
      exact absurd ((haveRoomFor_cons_iff hentry).mp hfits).1 hroom

/-- A beginning of entries that fit fits. -/
theorem HaveRoomFor.of_prefix (hroom : streams.HaveRoomFor entries)
    (hwritten : written <+: entries) : streams.HaveRoomFor written := by
  obtain ⟨later, rfl⟩ := hwritten
  exact ⟨hroom.out.mono (by simp), hroom.err.mono (by simp)⟩

/-- The longest beginning that fits ends in front of an entry that does not fit behind it. -/
theorem IsLongestFitting.eq_of_not_haveRoomFor {before later : List Entry}
    (hlongest : streams.IsLongestFitting (before ++ entry :: later) written)
    (hbefore : streams.HaveRoomFor before) (hentry : ¬ streams.HaveRoomFor (before ++ [entry])) :
    written = before := by
  obtain ⟨more, rfl⟩ := hlongest.longest before (List.prefix_append _ _) hbefore
  cases more with
  | nil => simp
  | cons first others =>
    obtain ⟨rfl, -⟩ := List.cons_prefix_cons.mp
      ((List.prefix_append_right_inj before).mp hlongest.beginning)
    refine absurd (hlongest.fitting.of_prefix ?_) hentry
    exact (List.prefix_append_right_inj before).mpr
      (List.cons_prefix_cons.mpr ⟨rfl, List.nil_prefix⟩)

end Streams

/-! ### Delivering -/

namespace Emitter

variable {emitter : Emitter} {entry : Entry} {entries : List Entry}

/-- An entry that fits is written in full. -/
theorem write_of_haveRoomFor (hlimits : emitter.streams.LimitLines) (hentry : entry.IsOneLine)
    (hfits : emitter.streams.HaveRoomFor [entry]) :
    emitter.write entry = (emitter.deliveredAll [entry], none) :=
  write_of_writeLine (Sink.writeLine_of_hasRoomFor (hlimits.sinkOf entry) hentry
    (Streams.haveRoomFor_singleton_iff.mp hfits))

/-- Nothing is written of an entry that does not fit. -/
theorem write_of_not_haveRoomFor (hfits : ¬ emitter.streams.HaveRoomFor [entry]) :
    emitter.write entry = (emitter, some (emitter.streams.fullFault entry)) := by
  have hrefused : (emitter.streams.sinkOf entry).writeLine entry.line =
      ((emitter.streams.sinkOf entry).append [], some (emitter.streams.fullFault entry)) := by
    rw [Sink.append_nil]
    exact Sink.writeLine_of_not_hasRoomFor (Streams.haveRoomFor_singleton_iff.not.mp hfits)
  rw [write_of_writeLine_refused hrefused, torn_nil]

/-- The longest beginning of the entries that fits is written, and the stream of the next entry
gives the fault. -/
theorem deliver_of_limitLines (hlimits : emitter.streams.LimitLines)
    (hentries : ∀ entry ∈ entries, entry.IsOneLine) :
    ∃ written, emitter.streams.IsLongestFitting entries written ∧
      ((written = entries ∧ emitter.deliver entries = (emitter.deliveredAll entries, none)) ∨
        ∃ next later, entries = written ++ next :: later ∧
          emitter.deliver entries =
            (emitter.deliveredAll written, some (emitter.streams.fullFault next))) := by
  induction entries generalizing emitter with
  | nil =>
    have hlongest : emitter.streams.IsLongestFitting [] [] :=
      ⟨List.nil_prefix, emitter.streams.haveRoomFor_nil, fun _ hlonger _ ↦ hlonger⟩
    exact ⟨[], hlongest, by simp [deliver]⟩
  | cons entry rest ih =>
    rw [List.forall_mem_cons] at hentries
    by_cases hfits : emitter.streams.HaveRoomFor [entry]
    · rw [deliver, write_of_haveRoomFor hlimits hentries.1 hfits]
      have hbehind : (emitter.deliveredAll [entry]).streams.LimitLines := hlimits.after [entry]
      obtain ⟨written, hlongest, hends⟩ := ih hbehind hentries.2
      refine ⟨entry :: written, hlongest.cons hentries.1 hfits, ?_⟩
      rcases hends with ⟨rfl, hall⟩ | ⟨next, later, rfl, hstopped⟩
      · left
        simp [hall]
      · right
        refine ⟨next, later, rfl, ?_⟩
        simp only [hstopped, deliveredAll_append, fullFault_deliveredAll]
        rfl
    · rw [deliver, write_of_not_haveRoomFor hfits]
      refine ⟨[], Streams.isLongestFitting_nil hentries.1 hfits, Or.inr ⟨entry, rest, rfl, ?_⟩⟩
      rw [deliveredAll_nil]

end Emitter

end SocketMetrics.Channel
