import SocketMetrics.Proofs.Sockstat.Layout
/-!
# What reading a summary comes to

`Outcome content result` says what a content means, without the reader: it begins with no summary,
or with one in which some field is beyond 64 bits, or with one that denotes a record. Reading a
content comes to this and nothing else (`read_eq_iff_outcome`): the lemmas `read_of_...` say what it
does in each of the three cases, and the cases leave nothing out (`outcome_read`).
-/

set_option autoImplicit false
set_option relaxedAutoImplicit false

namespace SocketMetrics.Sockstat

open Number Steps

variable {content : Text} {numerals : Fields Text} {record : Record} {field : Field}

/-! ### What a content says -/

/-- The content begins with a summary of the given numerals. -/
def BeginsWith (content : Text) (numerals : Fields Text) : Prop :=
  ∃ summary, IsSummary numerals summary ∧ summary <+: content

/-- The field is the first, in the order of the file, whose numeral denotes a number beyond
64 bits. -/
def FirstBeyond (numerals : Fields Text) (field : Field) : Prop :=
  ∃ numeral, IsFirst (fun entry ↦ 2 ^ 64 ≤ digitsValue entry.2) numerals.entries (field, numeral)

/-- The counters of the record are the numbers that the numerals denote, and the same of them are
missing. -/
def Denotes (numerals : Fields Text) (record : Record) : Prop :=
  record.map UInt64.toNat = numerals.map digitsValue

/-- What a content comes to when it is read. -/
inductive Outcome (content : Text) : Except ReadError Record → Prop where
  /-- The content does not begin with a summary. -/
  | grammar (hnone : ∀ numerals, ¬ BeginsWith content numerals) :
      Outcome content (.error (.grammar content))
  /-- The content begins with a summary in which a field is beyond 64 bits. -/
  | outOfRange {numerals : Fields Text} {field : Field} (hbegins : BeginsWith content numerals)
      (hfirst : FirstBeyond numerals field) :
      Outcome content (.error (.outOfRange field content))
  /-- The content begins with a summary in which all fields fit. -/
  | record {numerals : Fields Text} {record : Record} (hbegins : BeginsWith content numerals)
      (hdenotes : Denotes numerals record) :
      Outcome content (.ok record)

/-! ### Numbers -/

/-- What becomes of a numeral: a counter, or a fault if it is beyond 64 bits. -/
def counted (content : Text) (field : Field) (numeral : Text) : Except ReadError UInt64 :=
  match toCount? (digitsValue numeral) with
  | some count => pure count
  | none => throw (.outOfRange field content)

theorem counted_of_lt {numeral : Text} (hfits : digitsValue numeral < 2 ^ 64) :
    counted content field numeral = .ok (UInt64.ofNat (digitsValue numeral)) := by
  have hcount : toCount? (digitsValue numeral) = some (UInt64.ofNat (digitsValue numeral)) :=
    if_pos hfits
  simp only [counted, hcount]
  rfl

theorem counted_of_le {numeral : Text} (hbeyond : 2 ^ 64 ≤ digitsValue numeral) :
    counted content field numeral = .error (.outOfRange field content) := by
  have hcount : toCount? (digitsValue numeral) = none := if_neg (Nat.not_lt.mpr hbeyond)
  simp only [counted, hcount]
  rfl

/-- Only a numeral beyond 64 bits becomes a fault. -/
theorem exists_counted_eq_error_iff {numeral : Text} :
    (∃ fault, counted content field numeral = .error fault) ↔ 2 ^ 64 ≤ digitsValue numeral := by
  rcases Nat.lt_or_ge (digitsValue numeral) (2 ^ 64) with hfits | hbeyond
  · rw [counted_of_lt hfits]
    simpa using hfits
  · simp only [counted_of_le hbeyond, hbeyond, iff_true]
    exact ⟨_, rfl⟩

/-- Either all fields fit, or there is a first that does not. -/
theorem fits_or_exists_firstBeyond (numerals : Fields Text) :
    (∀ entry ∈ numerals.entries, digitsValue entry.2 < 2 ^ 64) ∨
      ∃ field, FirstBeyond numerals field := by
  by_cases hsome : ∃ entry ∈ numerals.entries, 2 ^ 64 ≤ digitsValue entry.2
  · obtain ⟨⟨field, numeral⟩, hfirst⟩ := exists_isFirst_iff.mpr hsome
    exact Or.inr ⟨field, numeral, hfirst⟩
  · refine Or.inl fun entry hentry ↦ Nat.lt_of_not_le fun hbeyond ↦ ?_
    exact hsome ⟨entry, hentry, hbeyond⟩

/-- The fields of numerals that denote a record fit. -/
theorem Denotes.fits (hdenotes : Denotes numerals record) :
    ∀ entry ∈ numerals.entries, digitsValue entry.2 < 2 ^ 64 := by
  intro entry hentry
  have hmem : (entry.1, digitsValue entry.2) ∈ (record.map UInt64.toNat).entries := by
    rw [hdenotes, Fields.entries_map]
    exact List.mem_map_of_mem hentry
  rw [Fields.entries_map, List.mem_map] at hmem
  obtain ⟨counter, -, hcounter⟩ := hmem
  rw [← (Prod.mk.inj hcounter).2]
  exact counter.2.toNat_lt

/-- Numerals that fit denote the record of their numbers. -/
theorem denotes_of_fits (hfits : ∀ entry ∈ numerals.entries, digitsValue entry.2 < 2 ^ 64) :
    Denotes numerals (numerals.map fun numeral ↦ UInt64.ofNat (digitsValue numeral)) := by
  unfold Denotes
  rw [Fields.map_map]
  exact Fields.map_congr fun entry hentry ↦ UInt64.toNat_ofNat_of_lt' (hfits entry hentry)

/-- Numerals denote one record. -/
theorem Denotes.eq_map (hdenotes : Denotes numerals record) :
    record = numerals.map fun numeral ↦ UInt64.ofNat (digitsValue numeral) := by
  calc
    record = (record.map UInt64.toNat).map UInt64.ofNat := by
      rw [Fields.map_map]
      simp only [UInt64.ofNat_toNat, Fields.map_id]
    _ = (numerals.map digitsValue).map UInt64.ofNat := congrArg _ hdenotes
    _ = numerals.map fun numeral ↦ UInt64.ofNat (digitsValue numeral) := Fields.map_map _ _ _

/-! ### Reading -/

theorem read_of_forall_not_beginsWith (hnone : ∀ numerals, ¬ BeginsWith content numerals) :
    read content = .error (.grammar content) := by
  cases hsplit : split? content with
  | none => simp only [read, hsplit]; rfl
  | some found =>
    obtain ⟨numerals, rest⟩ := found
    obtain ⟨summary, hsummary, hcontent⟩ := split?_eq_some_iff.mp hsplit
    exact absurd ⟨summary, hsummary, rest, hcontent.symm⟩ (hnone numerals)

/-- Reading a summary turns its numerals into counters, one after the other. -/
theorem read_of_beginsWith (hbegins : BeginsWith content numerals) :
    read content = numerals.traverse (counted content) := by
  obtain ⟨summary, hsummary, rest, rfl⟩ := hbegins
  simp only [read, split?_append hsummary rest]
  rfl

theorem read_of_firstBeyond (hbegins : BeginsWith content numerals)
    (hfirst : FirstBeyond numerals field) : read content = .error (.outOfRange field content) := by
  obtain ⟨numeral, hfirst⟩ := hfirst
  rw [read_of_beginsWith hbegins, Fields.traverse_eq_error_iff]
  refine ⟨(field, numeral), hfirst.congr fun entry _ ↦ ?_, counted_of_le hfirst.holds⟩
  exact exists_counted_eq_error_iff.symm

theorem read_of_denotes (hbegins : BeginsWith content numerals)
    (hdenotes : Denotes numerals record) : read content = .ok record := by
  rw [read_of_beginsWith hbegins, hdenotes.eq_map]
  exact Fields.traverse_eq_ok fun entry hentry ↦ counted_of_lt (hdenotes.fits entry hentry)

/-- Reading a content comes to something that the content means. -/
theorem outcome_read (content : Text) : Outcome content (read content) := by
  by_cases hsome : ∃ numerals, BeginsWith content numerals
  · obtain ⟨numerals, hbegins⟩ := hsome
    rcases fits_or_exists_firstBeyond numerals with hfits | ⟨field, hfirst⟩
    · rw [read_of_denotes hbegins (denotes_of_fits hfits)]
      exact .record hbegins (denotes_of_fits hfits)
    · rw [read_of_firstBeyond hbegins hfirst]
      exact .outOfRange hbegins hfirst
  · push Not at hsome
    rw [read_of_forall_not_beginsWith hsome]
    exact .grammar hsome

/-- Reading a content comes to exactly what the content means: a content that begins with no summary
is refused with the content, one with a field beyond 64 bits with the first such field, and any
other gives the record of the numbers that its numerals denote. -/
theorem read_eq_iff_outcome (content : Text) (result : Except ReadError Record) :
    read content = result ↔ Outcome content result := by
  constructor
  · rintro rfl
    exact outcome_read content
  · intro houtcome
    cases houtcome with
    | grammar hnone => exact read_of_forall_not_beginsWith hnone
    | outOfRange hbegins hfirst => exact read_of_firstBeyond hbegins hfirst
    | record hbegins hdenotes => exact read_of_denotes hbegins hdenotes

end SocketMetrics.Sockstat
