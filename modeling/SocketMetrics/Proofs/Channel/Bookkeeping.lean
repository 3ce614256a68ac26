import SocketMetrics.Proofs.Channel.Limits
import SocketMetrics.Proofs.Sample
/-!
# The books of an emitter

Whatever is asked of an emitter, in whatever order, its texts and counts agree with its answers. A
request is a metric that may have no value, a message, or a flush together with the faults that the
two streams have for it. `Emitter.Answers` lists all that one request can do over streams that limit
nothing but lines, and every other statement is read off that list. One request keeps the books
(`Emitter.Answers.keepsBooks`), and so does any history of requests (`Emitter.keepsBooks_history`):
the output stream holds the lines of the metrics that were written and the error stream those of the
messages, and the counts are their numbers. What a single request must leave alone is
`Turn.IsOrderly` (`books_and_order_of_history`).
-/

set_option autoImplicit false
set_option relaxedAutoImplicit false

namespace SocketMetrics.Channel

/-! ### Requests and turns -/

/-- One thing that is asked of an emitter. -/
inductive Request where
  | emit (group metric : Text) (value : Option UInt64) (tags : Option Text)
  | error (message : Text)
  /-- A flush, with the faults that the output stream and the error stream have for it. -/
  | flush (out err : Option Fault)
deriving DecidableEq, Repr

/-- The texts of the request are single lines. -/
def Request.IsOneLine : Request → Prop
  | .emit group metric _ tags =>
    '\n' ∉ group ∧ '\n' ∉ metric ∧ ∀ text ∈ tags, '\n' ∉ text
  | .error message => '\n' ∉ message
  | .flush _ _ => True

/-- A request that has been answered: the emitter before and after it, and the fault if it
failed. -/
structure Turn where
  request : Request
  before : Emitter
  after : Emitter
  fault : Option Fault
deriving DecidableEq, Repr

/-- The sink with flushes that meet the fault from now on, if there is one. -/
def Sink.failing (sink : Sink) (fault : Option Fault) : Sink :=
  { sink with flushFailure := fault.map (FlushFailure.mk 0) }

@[simp]
theorem Sink.flushFault_failing (sink : Sink) (fault : Option Fault) :
    (sink.failing fault).flushFault = fault := by
  cases fault <;> simp [failing, flushFault]

namespace Emitter

/-- The emitter over streams whose next flushes meet the given faults. -/
def exposedTo (emitter : Emitter) (out err : Option Fault) : Emitter :=
  { emitter with streams := ⟨emitter.streams.out.failing out, emitter.streams.err.failing err⟩ }

/-- Answers one request. -/
def answer (emitter : Emitter) : Request → Emitter × Option Fault
  | .emit group metric value tags => emitter.emit group metric value tags
  | .error message => emitter.error message
  | .flush out err => (emitter.exposedTo out err).flush

/-- Answers requests one after the other, whether they fail or not. -/
def history (emitter : Emitter) : List Request → List Turn
  | [] => []
  | request :: rest =>
    let (after, fault) := emitter.answer request
    ⟨request, emitter, after, fault⟩ :: after.history rest

/-- The emitter when all requests have been answered. -/
def afterAll (emitter : Emitter) (requests : List Request) : Emitter :=
  requests.foldl (fun emitter request ↦ (emitter.answer request).1) emitter

/-- The texts of both streams and both counts. -/
def account (emitter : Emitter) : (Text × Text) × ℕ × ℕ :=
  ((emitter.streams.out.written, emitter.streams.err.written),
    emitter.emitted, emitter.diagnostics)

end Emitter

/-- The lines of the metrics that had a value and met no fault, at the given time. -/
def emittedLines (timestamp : Int) (turns : List Turn) : List Text :=
  turns.filterMap fun turn ↦
    match turn.request, turn.fault with
    | .emit group metric (some value) tags, none =>
      some (Sample.line ⟨group, metric, timestamp, value, tags⟩)
    | _, _ => none

/-- The messages that met no fault. -/
def toldMessages (turns : List Turn) : List Text :=
  turns.filterMap fun turn ↦
    match turn.request, turn.fault with
    | .error message, none => some message
    | _, _ => none

/-! ### What one request can do -/

namespace Emitter

/-- What may come of one request: the emitter afterwards, and the fault if it failed. -/
inductive Answers (emitter : Emitter) : Request → Emitter → Option Fault → Prop where
  | absent (group metric : Text) (tags : Option Text) :
      Answers emitter (.emit group metric none tags) emitter none
  | emitted (group metric : Text) (value : UInt64) (tags : Option Text) :
      Answers emitter (.emit group metric (some value) tags)
        (emitter.deliveredAll [.metric ⟨group, metric, emitter.timestamp, value, tags⟩]) none
  | notEmitted (group metric : Text) (value : UInt64) (tags : Option Text) (fault : Fault) :
      Answers emitter (.emit group metric (some value) tags) emitter (some fault)
  | told (message : Text) :
      Answers emitter (.error message) (emitter.deliveredAll [.diagnostic message]) none
  | notTold (message : Text) (fault : Fault) :
      Answers emitter (.error message) emitter (some fault)
  | flushed :
      Answers emitter (.flush none none) (emitter.exposedTo none none).flushed none
  | errNotFlushed (fault : Fault) :
      Answers emitter (.flush none (some fault))
        { emitter with streams := {
            (emitter.exposedTo none (some fault)).streams with
            out := (emitter.exposedTo none (some fault)).streams.out.flushed } } (some fault)
  | outNotFlushed (fault : Fault) (err : Option Fault) :
      Answers emitter (.flush (some fault) err) (emitter.exposedTo (some fault) err) (some fault)

variable {emitter after : Emitter} {request : Request} {fault : Option Fault}

/-- Over streams that limit lines an entry of a single line is written in full or not at all. -/
theorem write_of_limitLines {entry : Entry} (hlimits : emitter.streams.LimitLines)
    (hentry : entry.IsOneLine) :
    emitter.write entry = (emitter.deliveredAll [entry], none) ∨
      emitter.write entry = (emitter, some (emitter.streams.fullFault entry)) := by
  by_cases hroom : emitter.streams.HaveRoomFor [entry]
  · exact Or.inl (write_of_haveRoomFor hlimits hentry hroom)
  · exact Or.inr (write_of_not_haveRoomFor hroom)

theorem limitLines_exposedTo (hlimits : emitter.streams.LimitLines) (out err : Option Fault) :
    (emitter.exposedTo out err).streams.LimitLines :=
  ⟨hlimits.out, hlimits.err⟩

/-- Every answer is one of those listed. -/
theorem answers_answer (hlimits : emitter.streams.LimitLines) (hone : request.IsOneLine) :
    emitter.Answers request (emitter.answer request).1 (emitter.answer request).2 := by
  cases request with
  | emit group metric value tags =>
    cases value with
    | none => exact .absent group metric tags
    | some value =>
      have hline : '\n' ∉ Sample.line ⟨group, metric, emitter.timestamp, value, tags⟩ :=
        Sample.lineFeed_not_mem_line_of_not_mem hone.1 hone.2.1 hone.2.2
      have hanswer : emitter.answer (.emit group metric (some value) tags) =
        emitter.write (.metric ⟨group, metric, emitter.timestamp, value, tags⟩) := rfl
      rcases write_of_limitLines hlimits (Entry.isOneLine_metric.mpr hline) with
        hwritten | hrefused
      · rw [hanswer, hwritten]
        exact .emitted group metric value tags
      · rw [hanswer, hrefused]
        exact .notEmitted group metric value tags _
  | error message =>
    have hanswer : emitter.answer (.error message) = emitter.write (.diagnostic message) := rfl
    rcases write_of_limitLines hlimits (Entry.isOneLine_diagnostic.mpr hone) with
      hwritten | hrefused
    · rw [hanswer, hwritten]
      exact .told message
    · rw [hanswer, hrefused]
      exact .notTold message _
  | flush out err =>
    have hexposed := limitLines_exposedTo hlimits out err
    have hout := hexposed.out.flushObstacle?_eq.trans (Sink.flushFault_failing _ out)
    have herr := hexposed.err.flushObstacle?_eq.trans (Sink.flushFault_failing _ err)
    have hanswer : emitter.answer (.flush out err) = (emitter.exposedTo out err).flush := rfl
    rw [hanswer]
    cases out with
    | some fault =>
      rw [flush_of_out_fails hout]
      exact .outNotFlushed fault err
    | none =>
      cases err with
      | some fault =>
        rw [flush_of_err_fails hout herr]
        exact .errNotFlushed fault
      | none =>
        rw [flush_of_obstacle?_eq_none hout herr]
        exact .flushed

/-- No answer changes what limits the streams. -/
theorem Answers.limitLines (hanswers : emitter.Answers request after fault)
    (hlimits : emitter.streams.LimitLines) : after.streams.LimitLines := by
  cases hanswers with
  | absent => exact hlimits
  | emitted => exact hlimits.after _
  | notEmitted => exact hlimits
  | told => exact hlimits.after _
  | notTold => exact hlimits
  | flushed => exact ⟨hlimits.out, hlimits.err⟩
  | errNotFlushed => exact ⟨hlimits.out, hlimits.err⟩
  | outNotFlushed => exact ⟨hlimits.out, hlimits.err⟩

/-! ### Books over a history -/

/-- Between two states of an emitter its streams have taken the lines of the metrics and the
messages that met no fault, and its counts have grown by their numbers. -/
structure KeepsBooks (first : Emitter) (turns : List Turn) (last : Emitter) : Prop where
  timestamp_eq : last.timestamp = first.timestamp
  out_eq : last.streams.out.written =
    first.streams.out.written ++ linesText (emittedLines first.timestamp turns)
  emitted_eq : last.emitted = first.emitted + (emittedLines first.timestamp turns).length
  err_eq : last.streams.err.written = first.streams.err.written ++ linesText (toldMessages turns)
  diagnostics_eq : last.diagnostics = first.diagnostics + (toldMessages turns).length

/-- Nothing asked, nothing to book. -/
theorem keepsBooks_nil (emitter : Emitter) : emitter.KeepsBooks [] emitter :=
  ⟨rfl, (List.append_nil _).symm, rfl, (List.append_nil _).symm, rfl⟩

/-- One request is booked. -/
theorem Answers.keepsBooks (hanswers : emitter.Answers request after fault) :
    emitter.KeepsBooks [⟨request, emitter, after, fault⟩] after := by
  have hunchanged (written : Text) : written = written ++ linesText [] := (List.append_nil _).symm
  cases hanswers with
  | absent => exact ⟨rfl, hunchanged _, rfl, hunchanged _, rfl⟩
  | emitted => exact ⟨rfl, rfl, rfl, rfl, rfl⟩
  | notEmitted => exact ⟨rfl, hunchanged _, rfl, hunchanged _, rfl⟩
  | told => exact ⟨rfl, rfl, rfl, rfl, rfl⟩
  | notTold => exact ⟨rfl, hunchanged _, rfl, hunchanged _, rfl⟩
  | flushed => exact ⟨rfl, hunchanged _, rfl, hunchanged _, rfl⟩
  | errNotFlushed => exact ⟨rfl, hunchanged _, rfl, hunchanged _, rfl⟩
  | outNotFlushed => exact ⟨rfl, hunchanged _, rfl, hunchanged _, rfl⟩

/-- Books go on where they ended. -/
theorem KeepsBooks.append {first middle last : Emitter} {turns more : List Turn}
    (hturns : first.KeepsBooks turns middle) (hmore : middle.KeepsBooks more last) :
    first.KeepsBooks (turns ++ more) last := by
  have htimestamp := hturns.timestamp_eq
  have hlines : emittedLines first.timestamp (turns ++ more) =
      emittedLines first.timestamp turns ++ emittedLines middle.timestamp more := by
    rw [htimestamp]
    exact List.filterMap_append
  have hmessages : toldMessages (turns ++ more) = toldMessages turns ++ toldMessages more :=
    List.filterMap_append
  refine ⟨hmore.timestamp_eq.trans htimestamp, ?_, ?_, ?_, ?_⟩
  · rw [hmore.out_eq, hturns.out_eq, hlines, linesText_append, List.append_assoc]
  · rw [hmore.emitted_eq, hturns.emitted_eq, hlines, List.length_append, Nat.add_assoc]
  · rw [hmore.err_eq, hturns.err_eq, hmessages, linesText_append, List.append_assoc]
  · rw [hmore.diagnostics_eq, hturns.diagnostics_eq, hmessages, List.length_append, Nat.add_assoc]

/-- All requests are booked, and each of them has one of the listed answers. -/
theorem keepsBooks_history {requests : List Request} (hlimits : emitter.streams.LimitLines)
    (hone : ∀ request ∈ requests, request.IsOneLine) :
    emitter.KeepsBooks (emitter.history requests) (emitter.afterAll requests) ∧
      ∀ turn ∈ emitter.history requests,
        turn.before.Answers turn.request turn.after turn.fault := by
  induction requests generalizing emitter with
  | nil => exact ⟨emitter.keepsBooks_nil, by simp [history]⟩
  | cons request rest ih =>
    rw [List.forall_mem_cons] at hone
    have hanswers := answers_answer hlimits hone.1
    obtain ⟨hbooks, hrest⟩ := ih (hanswers.limitLines hlimits) hone.2
    exact ⟨hanswers.keepsBooks.append hbooks, List.forall_mem_cons.mpr ⟨hanswers, hrest⟩⟩

end Emitter

/-! ### Order in every turn -/

/-- A flush reaches the error stream when that of the output stream has succeeded, and only then. -/
structure Turn.FlushesInOrder (turn : Turn) (out err : Option Fault) : Prop where
  of_fault : ∀ fault, out = some fault → turn.fault = some fault ∧
    turn.after.streams.out.flushes = turn.before.streams.out.flushes ∧
    turn.after.streams.err.flushes = turn.before.streams.err.flushes
  of_none : out = none → turn.fault = err ∧
    turn.after.streams.out.flushes = turn.before.streams.out.flushes + 1 ∧
    turn.after.streams.err.flushes =
      turn.before.streams.err.flushes + if err = none then 1 else 0

/-- What a request leaves alone. -/
structure Turn.IsOrderly (turn : Turn) : Prop where
  /-- A request that fails changes neither the texts nor the counts. -/
  account_of_fault : turn.fault ≠ none → turn.after.account = turn.before.account
  err_of_emit : ∀ group metric value tags, turn.request = .emit group metric value tags →
    turn.after.streams.err = turn.before.streams.err
  out_of_error : ∀ message, turn.request = .error message →
    turn.after.streams.out = turn.before.streams.out
  /-- A metric without a value succeeds and changes nothing, even if the stream is full. -/
  absent : ∀ group metric tags, turn.request = .emit group metric none tags →
    turn.fault = none ∧ turn.after = turn.before
  account_of_flush : ∀ out err, turn.request = .flush out err →
    turn.after.account = turn.before.account
  flush : ∀ out err, turn.request = .flush out err → turn.FlushesInOrder out err

/-- Every listed answer is orderly. -/
theorem Emitter.Answers.isOrderly {emitter after : Emitter} {request : Request}
    {fault : Option Fault} (hanswers : emitter.Answers request after fault) :
    Turn.IsOrderly ⟨request, emitter, after, fault⟩ := by
  cases hanswers with
  | absent =>
    exact ⟨fun _ ↦ rfl, fun _ _ _ _ _ ↦ rfl, nofun, fun _ _ _ _ ↦ ⟨rfl, rfl⟩, nofun, nofun⟩
  | emitted =>
    have herr : emitter.streams.err.append [] = emitter.streams.err := Sink.append_nil _
    exact ⟨fun hfault ↦ absurd rfl hfault, fun _ _ _ _ _ ↦ herr, nofun, nofun, nofun, nofun⟩
  | notEmitted =>
    exact ⟨fun _ ↦ rfl, fun _ _ _ _ _ ↦ rfl, nofun, nofun, nofun, nofun⟩
  | told =>
    have hout : emitter.streams.out.append [] = emitter.streams.out := Sink.append_nil _
    exact ⟨fun hfault ↦ absurd rfl hfault, nofun, fun _ _ ↦ hout, nofun, nofun, nofun⟩
  | notTold =>
    exact ⟨fun _ ↦ rfl, nofun, fun _ _ ↦ rfl, nofun, nofun, nofun⟩
  | flushed =>
    refine ⟨fun _ ↦ rfl, nofun, nofun, nofun, fun _ _ _ ↦ rfl, fun out err hrequest ↦ ?_⟩
    obtain ⟨rfl, rfl⟩ := Request.flush.inj hrequest
    exact ⟨nofun, fun _ ↦ ⟨rfl, rfl, rfl⟩⟩
  | errNotFlushed =>
    refine ⟨fun _ ↦ rfl, nofun, nofun, nofun, fun _ _ _ ↦ rfl, fun out err hrequest ↦ ?_⟩
    obtain ⟨rfl, rfl⟩ := Request.flush.inj hrequest
    exact ⟨nofun, fun _ ↦ ⟨rfl, rfl, rfl⟩⟩
  | outNotFlushed =>
    refine ⟨fun _ ↦ rfl, nofun, nofun, nofun, fun _ _ _ ↦ rfl, fun out err hrequest ↦ ?_⟩
    obtain ⟨rfl, rfl⟩ := Request.flush.inj hrequest
    exact ⟨fun _ hout ↦ ⟨hout, rfl, rfl⟩, nofun⟩

/-- Over streams that limit lines, and whatever is asked in single lines, the texts and the counts
agree with the answers at every point, and every request leaves alone what is not its own. -/
theorem books_and_order_of_history {streams : Streams} (hlimits : streams.LimitLines)
    (timestamp : Int) {requests : List Request} (hone : ∀ request ∈ requests, request.IsOneLine) :
    (∀ passed, passed <+: requests →
      let turns := (Emitter.start streams timestamp).history passed
      let emitter := (Emitter.start streams timestamp).afterAll passed
      emitter.streams.out.written =
          streams.out.written ++ linesText (emittedLines timestamp turns) ∧
        emitter.emitted = (emittedLines timestamp turns).length ∧
        emitter.streams.err.written = streams.err.written ++ linesText (toldMessages turns) ∧
        emitter.diagnostics = (toldMessages turns).length) ∧
    ∀ turn ∈ (Emitter.start streams timestamp).history requests, turn.IsOrderly := by
  have hstart : (Emitter.start streams timestamp).streams.LimitLines := hlimits
  constructor
  · intro passed hpassed turns emitter
    have hbooks := (Emitter.keepsBooks_history hstart
      fun request hrequest ↦ hone request (hpassed.subset hrequest)).1
    refine ⟨hbooks.out_eq, ?_, hbooks.err_eq, ?_⟩
    · rw [hbooks.emitted_eq]
      exact Nat.zero_add _
    · rw [hbooks.diagnostics_eq]
      exact Nat.zero_add _
  · intro turn hturn
    exact ((Emitter.keepsBooks_history hstart hone).2 turn hturn).isOrderly

/-- Two streams of one line each, asked for a second metric when the first has filled the output
stream, and then for one without a value, a message and two flushes that fail. -/
theorem books_and_order_of_full_stream :
    let fault : Fault := ⟨"full".toList⟩
    let streams : Streams := ⟨.empty (.lines 1) fault none, .empty (.lines 1) fault none⟩
    let requests : List Request :=
      [.emit "a".toList "b".toList (some 1) (some "c=d".toList),
        .emit "a".toList "b".toList (some 2) none, .emit "a".toList "b".toList none none,
        .error "m".toList, .flush none (some fault), .flush (some fault) none]
    (streams.LimitLines ∧ ∀ request ∈ requests, request.IsOneLine) ∧
      ((Emitter.start streams 7).afterAll requests).streams.out.written =
        "a.b 7 1 c=d\n".toList ∧
      ((Emitter.start streams 7).afterAll requests).emitted = 1 ∧
      ((Emitter.start streams 7).afterAll requests).streams.err.written = "m\n".toList ∧
      ((Emitter.start streams 7).afterAll requests).diagnostics = 1 ∧
      ∀ turn ∈ (Emitter.start streams 7).history requests, turn.IsOrderly := by
  intro fault streams requests
  have hlimits : streams.LimitLines := ⟨nofun, nofun⟩
  have hone : ∀ request ∈ requests, request.IsOneLine := by
    simp [requests, Request.IsOneLine]
  obtain ⟨hbooks, horder⟩ := books_and_order_of_history hlimits 7 hone
  obtain ⟨hout, hemitted, herr, hdiagnostics⟩ := hbooks requests List.prefix_rfl
  have hlines : emittedLines 7 ((Emitter.start streams 7).history requests) =
      ["a.b 7 1 c=d".toList] := by decide
  have hmessages : toldMessages ((Emitter.start streams 7).history requests) =
      ["m".toList] := by decide
  rw [hlines] at hout hemitted
  rw [hmessages] at herr hdiagnostics
  exact ⟨⟨hlimits, hone⟩, hout, hemitted, herr, hdiagnostics, horder⟩

end SocketMetrics.Channel
