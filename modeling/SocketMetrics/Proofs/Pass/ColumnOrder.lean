import SocketMetrics.Proofs.Channel.Lookalikes
import SocketMetrics.Proofs.Netstat.ColumnOrder
import SocketMetrics.Proofs.Pass.Delivery
/-!
# A pass does not depend on the order of columns

Contents that differ in the order of the columns of one section lead to the same samples, and to
messages that differ only in the content that they quote (`forall₂_alike_netstatPart`). Streams
cannot tell such messages apart, unless the error stream bounds the bytes that it takes and the
contents do not have the same characters. So a pass over either content writes the same text to the
output stream and the same number of lines to the error stream (`indifferent_to_column_order`).
-/

set_option autoImplicit false
set_option relaxedAutoImplicit false

namespace SocketMetrics

open Channel Netstat

namespace Netstat

variable {capacity : Capacity} {content other : Text}

/-! ### Messages that quote a content -/

section Messages

variable (hperm : ∀ limit, capacity = .pending limit → content.Perm other)

include hperm

theorem confuses_message_warning (words : List Text) :
    capacity.Confuses (Warning.message ⟨words, content⟩) (Warning.message ⟨words, other⟩) := by
  unfold Warning.message
  exact ((capacity.confuses_refl _).append (Capacity.confuses_quote hperm)).append
    (capacity.confuses_refl _)

theorem TableError.confuses_message (error : TableError) :
    capacity.Confuses (error.within content).message (error.within other).message := by
  cases error with
  | lineCount of lines carried =>
    exact ((capacity.confuses_refl _).append (Capacity.confuses_quote hperm)).append
      (capacity.confuses_refl _)
  | columnMismatch of names values carried =>
    exact ((capacity.confuses_refl _).append (Capacity.confuses_quote hperm)).append
      (capacity.confuses_refl _)
  | invalidValue of counter value => exact capacity.confuses_refl _

end Messages

/-- A fault that is reported carries the content. -/
theorem TableError.within_of_read {error : TableError}
    (herror : (Table.read content).table = .error error) : error.within content = error := by
  obtain ⟨seen, hbehind, -⟩ := Table.read_of_error herror
  cases hbehind <;> rfl

/-- The warnings carry the content. -/
theorem Table.warnings_read (content : Text) :
    (Table.read content).warnings =
      ((Table.read content).warnings.map Warning.words).map fun words ↦ ⟨words, content⟩ := by
  have hcontent (lines : List Text) : warningsOf content lines =
      ((warningsOf content lines).map Warning.words).map fun words ↦ ⟨words, content⟩ := by
    rw [map_words_warningsOf]
    rfl
  rcases Table.read_cases content with ⟨last, -, hwarnings, -⟩ |
    ⟨before, line, later, of, names, values, -, -, -, hwarnings, -⟩
  · rw [hwarnings]
    exact hcontent _
  · rw [hwarnings]
    exact hcontent _

end Netstat

namespace Pass

/-- Contents that differ in the order of columns lead to entries that a stream cannot tell apart. -/
theorem forall₂_alike_netstatPart {of : Section} {content other : Text} {capacity : Capacity}
    (hreorders : Reorders of content other)
    (hperm : ∀ limit, capacity = .pending limit → content.Perm other) (timestamp : Int) :
    List.Forall₂ (Entry.Alike capacity) (netstatPart timestamp (.ok content)).entries
      (netstatPart timestamp (.ok other)).entries := by
  obtain ⟨hfault, hwords⟩ := hreorders.fault?_eq
  have hwarnings : List.Forall₂ (Entry.Alike capacity)
      ((Table.read content).warnings.map fun warning ↦ Entry.diagnostic warning.message)
      ((Table.read other).warnings.map fun warning ↦ Entry.diagnostic warning.message) := by
    rw [Table.warnings_read content, Table.warnings_read other, hwords]
    generalize (Table.read content).warnings.map Warning.words = words
    simp only [List.forall₂_map_left_iff, List.forall₂_map_right_iff, List.forall₂_same]
    exact fun words _ ↦ .diagnostic (confuses_message_warning hperm words)
  cases hread : (Table.read content).table with
  | error error =>
    rw [Reading.fault?_eq_some_iff.mpr hread] at hfault
    have hread' := Reading.fault?_eq_some_iff.mp hfault
    simp only [netstatPart, hread, hread']
    refine List.rel_append hwarnings (.cons (.diagnostic ?_) .nil)
    have hmessage := TableError.confuses_message hperm error
    rw [TableError.within_of_read hread] at hmessage
    exact (capacity.confuses_refl _).append hmessage
  | ok table =>
    obtain ⟨table', hread'⟩ := hreorders.exists_read_iff.mp ⟨table, hread⟩
    simp only [netstatPart, hread, hread']
    refine List.rel_append hwarnings ?_
    rw [entries_eq_of_sameValues (hreorders.forall₂_sameValues hread hread') timestamp,
      List.forall₂_same]
    exact fun entry _ ↦ entry.alike_refl capacity

/-- **The order of columns makes no difference.** Where the columns of one section, whose names are
different, stand in another order, one content can be read if and only if the other can, and the
tables have the same sections in the same order with the same values. A pass over either content
writes the same text to the output stream and the same number of lines to the error stream, whatever
the streams do; only a bound on the bytes of the error stream asks for contents of the same
characters. -/
theorem indifferent_to_column_order {of : Section} {content other : Text}
    (hreorders : Reorders of content other) :
    ((∃ table, (Table.read content).table = .ok table) ↔
        ∃ table, (Table.read other).table = .ok table) ∧
      (∀ table table', (Table.read content).table = .ok table →
        (Table.read other).table = .ok table' → List.Forall₂ Counters.SameValues table table') ∧
      ∀ (sources sources' : Sources) (streams : Streams) (timestamp : Int) (pageSize : UInt64),
        nextContent sources.sockstat = nextContent sources'.sockstat →
        nextContent sources.netstat = .ok content → nextContent sources'.netstat = .ok other →
        (∀ limit, streams.err.capacity = .pending limit → content.Perm other) →
        (run sources streams timestamp pageSize).streams.out.written =
            (run sources' streams timestamp pageSize).streams.out.written ∧
          (run sources streams timestamp pageSize).streams.err.written.lineFeeds =
            (run sources' streams timestamp pageSize).streams.err.written.lineFeeds := by
  refine ⟨hreorders.exists_read_iff, fun _ _ ↦ hreorders.forall₂_sameValues, ?_⟩
  intro sources sources' streams timestamp pageSize hsummary hcontent hcontent' hperm
  have hentries : List.Forall₂ (Entry.Alike streams.err.capacity)
      (allEntries sources timestamp pageSize) (allEntries sources' timestamp pageSize) := by
    rw [allEntries, allEntries, hsummary, hcontent, hcontent']
    exact List.rel_append (List.forall₂_same.mpr fun entry _ ↦ entry.alike_refl _)
      (forall₂_alike_netstatPart hreorders hperm timestamp)
  have hstart : Emitter.Alike streams.err.capacity (.start streams timestamp)
      (.start streams timestamp) := ⟨rfl, .refl _⟩
  obtain ⟨-, hdelivered⟩ := hstart.deliver hentries
  obtain ⟨hout, herr⟩ := written_run sources streams timestamp pageSize
  obtain ⟨hout', herr'⟩ := written_run sources' streams timestamp pageSize
  rw [hout, hout', herr, herr', hdelivered.out_eq]
  exact ⟨rfl, hdelivered.err.written⟩

/-- The columns of a section with drops and overflows are exchanged below a line that is not known,
and the error stream bounds its bytes. -/
theorem indifferent_to_exchanged_columns :
    let content : Text := "Foo: 1\nTcp: ListenDrops ListenOverflows\nTcp: 9 4".toList
    let other : Text := "Foo: 1\nTcp: ListenOverflows ListenDrops\nTcp: 4 9".toList
    let streams : Streams := ⟨.unbounded, .fullDevice⟩
    let sources : Sources := ⟨.constant .directory, .constant (.ofBytes content.toUtf8)⟩
    let sources' : Sources := ⟨.constant .directory, .constant (.ofBytes other.toUtf8)⟩
    Reorders .tcp content other ∧ content.Perm other ∧
      (run sources streams 7 4096).streams.out.written =
        (run sources' streams 7 4096).streams.out.written ∧
      (run sources streams 7 4096).streams.err.written.lineFeeds =
        (run sources' streams 7 4096).streams.err.written.lineFeeds := by
  intro content other streams sources sources'
  have hheader : Section.ofHeader? "Tcp:".toList = some .tcp := by decide
  have hlines : content.lines = ["Foo: 1".toList, "Tcp: ListenDrops ListenOverflows".toList,
      "Tcp: 9 4".toList] := by
    decide
  have hlines' : other.lines = ["Foo: 1".toList, "Tcp: ListenOverflows ListenDrops".toList,
      "Tcp: 4 9".toList] := by
    decide
  have hnames : Text.words "Tcp: ListenDrops ListenOverflows".toList =
      ["Tcp:".toList, listenDrops, listenOverflows] := by
    decide
  have hnames' : Text.words "Tcp: ListenOverflows ListenDrops".toList =
      ["Tcp:".toList, listenOverflows, listenDrops] := by
    decide
  have hvalues : Text.words "Tcp: 9 4".toList = ["Tcp:".toList, "9".toList, "4".toList] := by
    decide
  have hvalues' : Text.words "Tcp: 4 9".toList = ["Tcp:".toList, "4".toList, "9".toList] := by
    decide
  have hreorders : Reorders .tcp content other := by
    refine ⟨?_, [(listenDrops, "9".toList), (listenOverflows, "4".toList)],
      [(listenOverflows, "4".toList), (listenDrops, "9".toList)], .swap _ _ _, by decide,
      by decide, by decide⟩
    rw [hlines, hlines']
    exact .cons (.same _) (.cons (.row hheader hnames hnames') (.cons
      (.row hheader hvalues hvalues') .nil))
  have hperm : content.Perm other := by decide +kernel
  have hcontent : nextContent sources.netstat = .ok content := nextContent_constant content
  have hcontent' : nextContent sources'.netstat = .ok other := nextContent_constant other
  exact ⟨hreorders, hperm, (indifferent_to_column_order hreorders).2.2 sources sources' streams 7
    4096 rfl hcontent hcontent' fun _ _ ↦ hperm⟩

end Pass

end SocketMetrics
