import SocketMetrics.Channel.Emitter
/-!
# Delivering entries to streams that never fail

Over streams that take everything, delivering entries succeeds and only appends: the output stream
receives the lines of the metrics and the error stream the messages, each in the order of the
entries and each ended by a line feed, and the counts grow by their numbers
(`Emitter.deliver_of_neverFail`). `Emitter.flush_of_neverFail` says that flushing then succeeds,
which leaves no text pending.
-/

set_option autoImplicit false
set_option relaxedAutoImplicit false

namespace SocketMetrics.Channel

/-! ### Sinks that never fail -/

/-- A sink that takes every text and lets every flush succeed. -/
structure Sink.NeverFails (sink : Sink) : Prop where
  capacity_eq : sink.capacity = .unbounded
  flushFailure_eq : sink.flushFailure = none

/-- Two streams neither of which ever fails. -/
structure Streams.NeverFail (streams : Streams) : Prop where
  out : streams.out.NeverFails
  err : streams.err.NeverFails

/-- The lines one after the other, each ended by a line feed. -/
def linesText (lines : List Text) : Text :=
  lines.flatMap fun line ↦ line ++ ['\n']

@[simp] theorem linesText_nil : linesText [] = [] := rfl

@[simp] theorem linesText_cons (line : Text) (lines : List Text) :
    linesText (line :: lines) = line ++ '\n' :: linesText lines := by
  simp [linesText]

@[simp] theorem linesText_append (first second : List Text) :
    linesText (first ++ second) = linesText first ++ linesText second :=
  List.flatMap_append ..

namespace Sink

@[simp] theorem append_nil (sink : Sink) : sink.append [] = sink := by
  simp [append]

@[simp] theorem append_append (sink : Sink) (first second : Text) :
    (sink.append first).append second = sink.append (first ++ second) := by
  simp [append]

theorem NeverFails.append {sink : Sink} (hsink : sink.NeverFails) (text : Text) :
    (sink.append text).NeverFails :=
  ⟨hsink.capacity_eq, hsink.flushFailure_eq⟩

theorem write_of_neverFails {sink : Sink} (hsink : sink.NeverFails) (text : Text) :
    sink.write text = (sink.append text, none) := by
  have htakes : sink.takes text = true := by simp [takes, hsink.capacity_eq]
  rw [write, if_pos htakes]

theorem writeLine_of_neverFails {sink : Sink} (hsink : sink.NeverFails) (line : Text) :
    sink.writeLine line = (sink.append (linesText [line]), none) := by
  rw [writeLine, write_of_neverFails hsink]
  simp only [write_of_neverFails (hsink.append line), append_append, linesText_cons,
    linesText_nil]

/-- The sink after a flush that succeeded. -/
def flushed (sink : Sink) : Sink :=
  { sink with pending := [], flushes := sink.flushes + 1 }

@[simp] theorem written_flushed (sink : Sink) : sink.flushed.written = sink.written := rfl

theorem NeverFails.flushed {sink : Sink} (hsink : sink.NeverFails) : sink.flushed.NeverFails :=
  ⟨hsink.capacity_eq, hsink.flushFailure_eq⟩

theorem flush_of_neverFails {sink : Sink} (hsink : sink.NeverFails) :
    sink.flush = (sink.flushed, none) := by
  have hobstacle : sink.flushObstacle? = none := by
    simp [flushObstacle?, flushFault, hsink.capacity_eq, hsink.flushFailure_eq]
  simp only [flush, hobstacle, flushed]

end Sink

/-! ### Entries by their stream -/

/-- The line that an entry is written as, without its line feed. -/
def Entry.line : Entry → Text
  | .metric sample => sample.line
  | .diagnostic message => message

/-- The entry is written as a single line. -/
def Entry.IsOneLine (entry : Entry) : Prop :=
  '\n' ∉ entry.line

@[simp] theorem Entry.isOneLine_metric {sample : Sample} :
    (Entry.metric sample).IsOneLine ↔ '\n' ∉ sample.line := Iff.rfl

@[simp] theorem Entry.isOneLine_diagnostic {message : Text} :
    (Entry.diagnostic message).IsOneLine ↔ '\n' ∉ message := Iff.rfl

/-- The stream that an entry is written to. -/
def Streams.sinkOf (streams : Streams) : Entry → Sink
  | .metric _ => streams.out
  | .diagnostic _ => streams.err

theorem Streams.NeverFail.sinkOf {streams : Streams} (hstreams : streams.NeverFail)
    (entry : Entry) : (streams.sinkOf entry).NeverFails := by
  cases entry with
  | metric sample => exact hstreams.out
  | diagnostic message => exact hstreams.err

/-- The sample of a metric entry. -/
def Entry.sample? : Entry → Option Sample
  | .metric sample => some sample
  | .diagnostic _ => none

/-- The lines that entries write to the output stream. -/
def metricLines (entries : List Entry) : List Text :=
  entries.filterMap fun
    | .metric sample => some sample.line
    | .diagnostic _ => none

/-- The lines that entries write to the error stream. -/
def messageLines (entries : List Entry) : List Text :=
  entries.filterMap fun
    | .metric _ => none
    | .diagnostic message => some message

@[simp] theorem metricLines_nil : metricLines [] = [] := rfl

@[simp] theorem messageLines_nil : messageLines [] = [] := rfl

@[simp] theorem metricLines_append (first second : List Entry) :
    metricLines (first ++ second) = metricLines first ++ metricLines second :=
  List.filterMap_append ..

@[simp] theorem messageLines_append (first second : List Entry) :
    messageLines (first ++ second) = messageLines first ++ messageLines second :=
  List.filterMap_append ..

@[simp] theorem metricLines_map_metric (samples : List Sample) :
    metricLines (samples.map Entry.metric) = samples.map Sample.line := by
  rw [metricLines, List.filterMap_map]
  exact congrFun List.filterMap_eq_map samples

@[simp] theorem messageLines_map_metric (samples : List Sample) :
    messageLines (samples.map Entry.metric) = [] := by
  rw [messageLines, List.filterMap_map]
  exact List.filterMap_eq_nil_iff.mpr fun _ _ ↦ rfl

@[simp] theorem metricLines_map_diagnostic {α : Type} (message : α → Text) (items : List α) :
    metricLines (items.map fun item ↦ Entry.diagnostic (message item)) = [] := by
  rw [metricLines, List.filterMap_map]
  exact List.filterMap_eq_nil_iff.mpr fun _ _ ↦ rfl

@[simp] theorem messageLines_map_diagnostic {α : Type} (message : α → Text) (items : List α) :
    messageLines (items.map fun item ↦ Entry.diagnostic (message item)) = items.map message := by
  rw [messageLines, List.filterMap_map]
  exact congrFun List.filterMap_eq_map items

@[simp] theorem metricLines_singleton_diagnostic (message : Text) :
    metricLines [.diagnostic message] = [] := rfl

@[simp] theorem messageLines_singleton_diagnostic (message : Text) :
    messageLines [.diagnostic message] = [message] := rfl

theorem metricLines_eq_map_line (entries : List Entry) :
    metricLines entries = (entries.filterMap Entry.sample?).map Sample.line := by
  rw [metricLines, List.map_filterMap]
  congr 1
  funext entry
  cases entry <;> rfl

/-- Every entry is a line of one of the two streams. -/
theorem length_metricLines_add_length_messageLines (entries : List Entry) :
    (metricLines entries).length + (messageLines entries).length = entries.length := by
  induction entries with
  | nil => rfl
  | cons entry rest ih =>
    rw [List.length_cons, ← ih]
    cases entry with
    | metric sample => exact Nat.succ_add _ _
    | diagnostic message => exact Nat.add_succ _ _

/-- The lines of single-line entries are single lines on both streams. -/
theorem lineFeed_not_mem_of_isOneLine {entries : List Entry}
    (hentries : ∀ entry ∈ entries, entry.IsOneLine) :
    (∀ line ∈ metricLines entries, '\n' ∉ line) ∧
      ∀ message ∈ messageLines entries, '\n' ∉ message := by
  constructor
  · intro line hline
    obtain ⟨entry, hentry, hsome⟩ := List.mem_filterMap.mp hline
    cases entry with
    | metric sample =>
      cases hsome
      exact hentries _ hentry
    | diagnostic message => cases hsome
  · intro message hmessage
    obtain ⟨entry, hentry, hsome⟩ := List.mem_filterMap.mp hmessage
    cases entry with
    | metric sample => cases hsome
    | diagnostic message =>
      cases hsome
      exact hentries _ hentry

/-! ### Delivering -/

namespace Emitter

/-- The emitter after entries have been written in full. -/
def deliveredAll (emitter : Emitter) (entries : List Entry) : Emitter where
  timestamp := emitter.timestamp
  streams := {
    out := emitter.streams.out.append (linesText (metricLines entries))
    err := emitter.streams.err.append (linesText (messageLines entries)) }
  emitted := emitter.emitted + (metricLines entries).length
  diagnostics := emitter.diagnostics + (messageLines entries).length

@[simp] theorem deliveredAll_nil (emitter : Emitter) : emitter.deliveredAll [] = emitter := by
  simp [deliveredAll]

@[simp] theorem deliveredAll_append (emitter : Emitter) (first second : List Entry) :
    (emitter.deliveredAll first).deliveredAll second = emitter.deliveredAll (first ++ second) := by
  simp [deliveredAll, Nat.add_assoc]

theorem neverFail_deliveredAll {emitter : Emitter} (hstreams : emitter.streams.NeverFail)
    (entries : List Entry) : (emitter.deliveredAll entries).streams.NeverFail :=
  ⟨hstreams.out.append _, hstreams.err.append _⟩

/-- An entry has been written when its stream has taken its line. -/
theorem write_of_writeLine {emitter : Emitter} {entry : Entry}
    (hline : (emitter.streams.sinkOf entry).writeLine entry.line =
      ((emitter.streams.sinkOf entry).append (linesText [entry.line]), none)) :
    emitter.write entry = (emitter.deliveredAll [entry], none) := by
  cases entry with
  | metric sample =>
    change emitter.streams.out.writeLine sample.line = _ at hline
    simp only [write, hline]
    simp [deliveredAll, metricLines, messageLines, Streams.sinkOf, Entry.line]
  | diagnostic message =>
    change emitter.streams.err.writeLine message = _ at hline
    simp only [write, hline]
    simp [deliveredAll, metricLines, messageLines, Streams.sinkOf, Entry.line]

/-- Writing an entry succeeds over streams that never fail. -/
theorem write_of_neverFail {emitter : Emitter} (hstreams : emitter.streams.NeverFail)
    (entry : Entry) : emitter.write entry = (emitter.deliveredAll [entry], none) :=
  write_of_writeLine (Sink.writeLine_of_neverFails (hstreams.sinkOf entry) entry.line)

/-- Delivering entries over streams that never fail writes every one of them. -/
theorem deliver_of_neverFail {emitter : Emitter} (hstreams : emitter.streams.NeverFail)
    (entries : List Entry) : emitter.deliver entries = (emitter.deliveredAll entries, none) := by
  induction entries generalizing emitter with
  | nil => simp [deliver]
  | cons entry rest ih =>
    rw [deliver, write_of_neverFail hstreams]
    simp only
    rw [ih (neverFail_deliveredAll hstreams [entry]), deliveredAll_append]
    rfl

/-- The emitter after both of its streams have been flushed. -/
def flushed (emitter : Emitter) : Emitter :=
  { emitter with streams := ⟨emitter.streams.out.flushed, emitter.streams.err.flushed⟩ }

theorem neverFail_flushed {emitter : Emitter} (hstreams : emitter.streams.NeverFail) :
    emitter.flushed.streams.NeverFail :=
  ⟨hstreams.out.flushed, hstreams.err.flushed⟩

/-- Flushing streams that never fail succeeds. -/
theorem flush_of_neverFail {emitter : Emitter} (hstreams : emitter.streams.NeverFail) :
    emitter.flush = (emitter.flushed, none) := by
  simp only [flush, Sink.flush_of_neverFails hstreams.out, Sink.flush_of_neverFails hstreams.err]
  rfl

end Emitter

end SocketMetrics.Channel
