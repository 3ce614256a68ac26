import SocketMetrics.Proofs.Sockstat.Reading
/-!
# Writing a record, and reading part of what was written

The written form of a record is a summary that denotes it (`isSummary_write`, `denotes_decimal`), so
that reading gives the record back, whatever follows. No summary is a proper beginning of another
one: a summary that is cut anywhere is refused (`read_of_proper_prefix`).
`reads_back_and_detects_truncation` puts both together.
-/

set_option autoImplicit false
set_option relaxedAutoImplicit false

namespace SocketMetrics.Sockstat

open Number

/-! ### The written form of a record -/

theorem isSummary_write {used : Text} (hused : isNumeral used = true) (record : Record) :
    IsSummary (record.map fun count ↦ decimal count.toNat)
      (write used (record.map fun count ↦ decimal count.toNat)) := by
  refine ⟨used, hused, fun entry hentry ↦ ?_, rfl⟩
  rw [Fields.entries_map, List.mem_map] at hentry
  obtain ⟨counter, -, rfl⟩ := hentry
  exact isNumeral_decimal counter.2.toNat

/-- The canonical numerals of a record denote it. -/
theorem denotes_decimal (record : Record) :
    Denotes (record.map fun count ↦ decimal count.toNat) record := by
  unfold Denotes
  rw [Fields.map_map]
  simp only [digitsValue_decimal]

/-- A summary that denotes a record is read as that record, whatever follows it. -/
theorem read_append {numerals : Fields Text} {summary : Text} {record : Record}
    (hsummary : IsSummary numerals summary) (hdenotes : Denotes numerals record) (rest : Text) :
    read (summary ++ rest) = .ok record :=
  read_of_denotes ⟨summary, hsummary, List.prefix_append summary rest⟩ hdenotes

/-! ### The part of a content that is read -/

/-- The text is the summary with which the content begins. -/
def IsMatched (content matched : Text) : Prop :=
  matched <+: content ∧ ∃ numerals, IsSummary numerals matched

/-- A content begins with one summary at most. -/
theorem IsMatched.unique {content first second : Text} (hfirst : IsMatched content first)
    (hsecond : IsMatched content second) : first = second := by
  obtain ⟨⟨rest, rfl⟩, numerals, hsummary⟩ := hfirst
  obtain ⟨⟨rest', hsame⟩, numerals', hsummary'⟩ := hsecond
  exact (hsummary.eq_of_append_eq hsummary' hsame.symm).2.1

/-- A content from which a record is read begins with a summary that denotes the record. -/
theorem exists_isMatched_of_read {content : Text} {record : Record}
    (hread : read content = .ok record) :
    ∃ matched numerals, matched <+: content ∧ IsSummary numerals matched ∧
      Denotes numerals record := by
  have houtcome := outcome_read content
  rw [hread] at houtcome
  cases houtcome with
  | record hbegins hdenotes =>
    obtain ⟨matched, hsummary, hfront⟩ := hbegins
    exact ⟨matched, _, hfront, hsummary, hdenotes⟩

/-- A summary that is cut anywhere is refused. -/
theorem read_of_proper_prefix {numerals : Fields Text} {summary part : Text}
    (hsummary : IsSummary numerals summary) (hpart : part <+: summary) (hproper : part ≠ summary) :
    read part = .error (.grammar part) := by
  refine read_of_forall_not_beginsWith fun other hbegins ↦ hproper ?_
  obtain ⟨inner, hinner, hfront⟩ := hbegins
  -- a summary at the head of the part would be the whole summary
  have hwhole : inner = summary :=
    IsMatched.unique ⟨hfront.trans hpart, other, hinner⟩ ⟨List.prefix_rfl, numerals, hsummary⟩
  exact hpart.eq_of_length_le (hwhole ▸ hfront.length_le)

/-- Reading undoes writing, whatever follows the summary. Of every content that is read, one part
is a summary: whatever follows this part, the same record is read, and when the part is cut
anywhere, what is left of it is refused. -/
theorem reads_back_and_detects_truncation :
    (∀ (record : Record) (used rest : Text), isNumeral used = true →
        read (write used (record.map fun count ↦ decimal count.toNat) ++ rest) = .ok record) ∧
      ∀ (content : Text) (record : Record), read content = .ok record →
        ∃ matched, IsMatched content matched ∧
          (∀ other, IsMatched content other → other = matched) ∧
          (∀ part, part <+: matched → part ≠ matched → read part = .error (.grammar part)) ∧
          ∀ more, read (matched ++ more) = .ok record := by
  constructor
  · intro record used rest hused
    exact read_append (isSummary_write hused record) (denotes_decimal record) rest
  · intro content record hread
    obtain ⟨matched, numerals, hfront, hsummary, hdenotes⟩ := exists_isMatched_of_read hread
    have hmatched : IsMatched content matched := ⟨hfront, numerals, hsummary⟩
    refine ⟨matched, hmatched, fun other hother ↦ hother.unique hmatched, ?_, ?_⟩
    · intro part hpart hproper
      exact read_of_proper_prefix hsummary hpart hproper
    · intro more
      exact read_append hsummary hdenotes more

/-- A summary without the optional parts, with a greatest counter and with another line behind it,
is read; what is left of it when its last line is cut is refused. -/
theorem reads_back_without_optional_parts :
    let summary := ("sockets: used 042\nTCP: inuse 5 orphan 1 tw 2 alloc 5 mem 10\nUDP: inuse 3\n"
      ++ "RAW: inuse 0\nFRAG: inuse 0 memory 18446744073709551615\n").toList
    let record : Record := ⟨5, 1, 2, 5, 10, 3, none, none, 0, 0, 18446744073709551615⟩
    isNumeral "042".toList = true ∧
      write "042".toList (record.map fun count ↦ decimal count.toNat) = summary ∧
      read (summary ++ "MORE: 1\n".toList) = .ok record ∧
      ∃ matched, IsMatched (summary ++ "MORE: 1\n".toList) matched ∧
        (∀ part, part <+: matched → part ≠ matched → read part = .error (.grammar part)) ∧
        ∀ more, read (matched ++ more) = .ok record := by
  intro summary record
  have hused : isNumeral "042".toList = true := by decide
  have hwrite : write "042".toList (record.map fun count ↦ decimal count.toNat) = summary := by
    decide +kernel
  have hread : read (summary ++ "MORE: 1\n".toList) = .ok record := by
    have hback := reads_back_and_detects_truncation.1 record "042".toList "MORE: 1\n".toList hused
    rwa [hwrite] at hback
  obtain ⟨matched, hmatched, -, hcut, hmore⟩ :=
    reads_back_and_detects_truncation.2 _ record hread
  exact ⟨hused, hwrite, hread, matched, hmatched, hcut, hmore⟩

end SocketMetrics.Sockstat
