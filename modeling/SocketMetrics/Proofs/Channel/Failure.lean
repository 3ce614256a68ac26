import SocketMetrics.Proofs.Channel.Delivery
/-!
# Delivering entries to streams that may fail

Whatever its streams do, delivering entries ends in one of two ways (`Emitter.deliver_cases`): all
entries were written in full, or one of them was refused, those in front of it were written in
full and those behind it not at all. Of the refused entry its stream holds nothing, or the line
without its line feed. The fault is the one of the stream that refused it.
-/

set_option autoImplicit false
set_option relaxedAutoImplicit false

namespace SocketMetrics.Channel

/-! ### Sinks that refuse -/

/-- A line is written in full, or refused with nothing or with all but its line feed taken. -/
theorem Sink.writeLine_cases (sink : Sink) (line : Text) :
    sink.writeLine line = (sink.append (linesText [line]), none) ∨
      ∃ taken, (taken = [] ∨ taken = line) ∧
        sink.writeLine line = (sink.append taken, some sink.full) := by
  by_cases hline : sink.takes line = true
  · by_cases hend : (sink.append line).takes ['\n'] = true
    · left
      simp [writeLine, write, hline, hend]
    · right
      refine ⟨line, Or.inr rfl, ?_⟩
      simp only [writeLine, write, if_pos hline, if_neg hend]
      rfl
  · right
    refine ⟨[], Or.inl rfl, ?_⟩
    simp only [writeLine, write, if_neg hline, append_nil]

theorem Sink.written_flush (sink : Sink) : sink.flush.1.written = sink.written := by
  unfold flush
  split
  · rfl
  · rfl

/-! ### Entries that a stream refuses -/

/-- The fault of the stream of an entry when it takes no more text. -/
def Streams.fullFault (streams : Streams) (entry : Entry) : Fault :=
  (streams.sinkOf entry).full

/-- The streams after the stream of an entry has taken a text. -/
def Streams.appendFor (streams : Streams) (entry : Entry) (text : Text) : Streams :=
  match entry with
  | .metric _ => { streams with out := streams.out.append text }
  | .diagnostic _ => { streams with err := streams.err.append text }

@[simp] theorem Streams.appendFor_nil (streams : Streams) (entry : Entry) :
    streams.appendFor entry [] = streams := by
  cases entry <;> simp [appendFor]

namespace Emitter

/-- The emitter after the stream of an entry has taken a text that is not a whole line. -/
def torn (emitter : Emitter) (entry : Entry) (taken : Text) : Emitter :=
  { emitter with streams := emitter.streams.appendFor entry taken }

@[simp] theorem torn_nil (emitter : Emitter) (entry : Entry) : emitter.torn entry [] = emitter := by
  simp [torn]

@[simp] theorem fullFault_deliveredAll (emitter : Emitter) (entries : List Entry) :
    (emitter.deliveredAll entries).streams.fullFault = emitter.streams.fullFault := by
  funext entry
  cases entry <;> rfl

/-- An entry is refused when its stream has refused its line. -/
theorem write_of_writeLine_refused {emitter : Emitter} {entry : Entry} {taken : Text}
    {fault : Fault}
    (hline : (emitter.streams.sinkOf entry).writeLine entry.line =
      ((emitter.streams.sinkOf entry).append taken, some fault)) :
    emitter.write entry = (emitter.torn entry taken, some fault) := by
  cases entry with
  | metric sample =>
    change emitter.streams.out.writeLine sample.line = _ at hline
    simp only [write, hline]
    rfl
  | diagnostic message =>
    change emitter.streams.err.writeLine message = _ at hline
    simp only [write, hline]
    rfl

/-- An entry is written in full or refused by its stream. -/
theorem write_cases (emitter : Emitter) (entry : Entry) :
    emitter.write entry = (emitter.deliveredAll [entry], none) ∨
      ∃ taken, (taken = [] ∨ taken = entry.line) ∧
        emitter.write entry =
          (emitter.torn entry taken, some (emitter.streams.fullFault entry)) := by
  rcases (emitter.streams.sinkOf entry).writeLine_cases entry.line with hwritten |
    ⟨taken, htaken, hrefused⟩
  · exact Or.inl (write_of_writeLine hwritten)
  · exact Or.inr ⟨taken, htaken, write_of_writeLine_refused hrefused⟩

/-- Entries are delivered in full, or up to the first that its stream refuses. -/
theorem deliver_cases (emitter : Emitter) (entries : List Entry) :
    emitter.deliver entries = (emitter.deliveredAll entries, none) ∨
      ∃ written next later taken, entries = written ++ next :: later ∧
        (taken = [] ∨ taken = next.line) ∧
        emitter.deliver entries = ((emitter.deliveredAll written).torn next taken,
          some (emitter.streams.fullFault next)) := by
  induction entries generalizing emitter with
  | nil => simp [deliver]
  | cons entry rest ih =>
    rcases emitter.write_cases entry with hwritten | ⟨taken, htaken, hrefused⟩
    · rw [deliver, hwritten]
      rcases ih (emitter.deliveredAll [entry]) with hall |
        ⟨written, next, later, taken, rfl, htaken, hstopped⟩
      · left
        simp [hall]
      · right
        refine ⟨entry :: written, next, later, taken, rfl, htaken, ?_⟩
        simp [hstopped]
    · right
      refine ⟨[], entry, rest, taken, rfl, htaken, ?_⟩
      rw [deliver, hrefused, deliveredAll_nil]

/-- A delivery that meets no fault has written everything. -/
theorem eq_deliveredAll_of_deliver {emitter delivered : Emitter} {entries : List Entry}
    (hdeliver : emitter.deliver entries = (delivered, none)) :
    delivered = emitter.deliveredAll entries := by
  rcases emitter.deliver_cases entries with hall | ⟨_, _, _, _, -, -, hstopped⟩
  · rw [hall] at hdeliver
    exact (congrArg Prod.fst hdeliver).symm
  · rw [hstopped] at hdeliver
    cases hdeliver

/-- Entries are delivered one part after the other. -/
theorem deliver_append (emitter : Emitter) (first second : List Entry) :
    emitter.deliver (first ++ second) =
      match emitter.deliver first with
      | (delivered, none) => delivered.deliver second
      | failed => failed := by
  induction first generalizing emitter with
  | nil => rfl
  | cons entry rest ih =>
    rw [List.cons_append, deliver, deliver]
    rcases emitter.write_cases entry with hwritten | ⟨taken, -, hrefused⟩
    · rw [hwritten]
      exact ih _
    · rw [hrefused]

/-! ### Flushes that fail -/

/-- A flush changes no count. -/
theorem counts_flush (emitter : Emitter) :
    emitter.flush.1.emitted = emitter.emitted ∧
      emitter.flush.1.diagnostics = emitter.diagnostics := by
  unfold flush
  split
  · exact ⟨rfl, rfl⟩
  · exact ⟨rfl, rfl⟩

/-- A flush writes nothing. -/
theorem written_flush (emitter : Emitter) :
    emitter.flush.1.streams.out.written = emitter.streams.out.written ∧
      emitter.flush.1.streams.err.written = emitter.streams.err.written := by
  have hout := emitter.streams.out.written_flush
  have herr := emitter.streams.err.written_flush
  unfold flush
  split
  · next out houtFlush =>
    rw [houtFlush] at hout
    exact ⟨hout, herr⟩
  · next out fault houtFlush =>
    rw [houtFlush] at hout
    exact ⟨hout, rfl⟩

/-- Nothing is flushed when the output stream cannot be flushed. -/
theorem flush_of_out_fails {emitter : Emitter} {fault : Fault}
    (hout : emitter.streams.out.flushObstacle? = some fault) :
    emitter.flush = (emitter, some fault) := by
  simp [flush, Sink.flush, hout]

/-- The output stream is flushed before the error stream can fail. -/
theorem flush_of_err_fails {emitter : Emitter} {fault : Fault}
    (hout : emitter.streams.out.flushObstacle? = none)
    (herr : emitter.streams.err.flushObstacle? = some fault) :
    emitter.flush = ({ emitter with
      streams := { emitter.streams with out := emitter.streams.out.flushed } }, some fault) := by
  simp [flush, Sink.flush, hout, herr, Sink.flushed]

/-- Both streams are flushed when nothing stands in the way. -/
theorem flush_of_obstacle?_eq_none {emitter : Emitter}
    (hout : emitter.streams.out.flushObstacle? = none)
    (herr : emitter.streams.err.flushObstacle? = none) :
    emitter.flush = (emitter.flushed, none) := by
  simp [flush, Sink.flush, hout, herr, Sink.flushed, flushed]

end Emitter

end SocketMetrics.Channel
