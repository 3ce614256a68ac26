import SocketMetrics.Netstat.Scan
/-!
# Columns of a section

Of several columns of one name the last is in force. `LastColumn` says so by the position of the
column; `lookup_columns_eq_some_iff` shows that looking a name up in the entries of two rows of one
width finds the value in that column.
-/

set_option autoImplicit false
set_option relaxedAutoImplicit false

namespace SocketMetrics.Netstat

/-- The value in the last column of the given name. -/
def LastColumn (names values : List Text) (name value : Text) : Prop :=
  ∃ column : Nat, names[column]? = some name ∧ values[column]? = some value ∧
    ∀ later, column < later → names[later]? ≠ some name

theorem LastColumn.mem {names values : List Text} {name value : Text}
    (hcolumn : LastColumn names values name value) : name ∈ names := by
  obtain ⟨column, hname, -, -⟩ := hcolumn
  exact List.mem_of_getElem? hname

/-- The last column of a name is the first one only if the name does not come again. -/
theorem lastColumn_cons_iff {first : Text} {names : List Text} {one : Text} {values : List Text}
    {name value : Text} :
    LastColumn (first :: names) (one :: values) name value ↔
      LastColumn names values name value ∨ (name ∉ names ∧ name = first ∧ value = one) := by
  constructor
  · rintro ⟨column, hname, hvalue, hlater⟩
    cases column with
    | zero =>
      simp only [List.getElem?_cons_zero, Option.some.injEq] at hname hvalue
      refine Or.inr ⟨fun hagain ↦ ?_, hname.symm, hvalue.symm⟩
      obtain ⟨place, hplace⟩ := List.mem_iff_getElem?.mp hagain
      exact hlater (place + 1) (Nat.zero_lt_succ place) (by simpa using hplace)
    | succ column =>
      refine Or.inl ⟨column, by simpa using hname, by simpa using hvalue, fun later hlt hagain ↦ ?_⟩
      exact hlater (later + 1) (Nat.succ_lt_succ hlt) (by simpa using hagain)
  · rintro (⟨column, hname, hvalue, hlater⟩ | ⟨hnot, rfl, rfl⟩)
    · refine ⟨column + 1, by simpa using hname, by simpa using hvalue, fun later hlt hagain ↦ ?_⟩
      cases later with
      | zero => exact Nat.not_lt_zero _ hlt
      | succ later => exact hlater later (Nat.lt_of_succ_lt_succ hlt) (by simpa using hagain)
    · refine ⟨0, rfl, rfl, fun later hlt hagain ↦ ?_⟩
      cases later with
      | zero => exact Nat.lt_irrefl _ hlt
      | succ later => exact hnot (List.mem_of_getElem? (by simpa using hagain))

/-- Where all names are different, the last column of a name is its only one. -/
theorem lastColumn_map_iff_mem {entries : List (Text × Text)}
    (hnodup : (entries.map Prod.fst).Nodup) (name value : Text) :
    LastColumn (entries.map Prod.fst) (entries.map Prod.snd) name value ↔
      (name, value) ∈ entries := by
  induction entries with
  | nil => simp [LastColumn]
  | cons entry rest ih =>
    rw [List.map_cons, List.nodup_cons] at hnodup
    rw [List.map_cons, List.map_cons, lastColumn_cons_iff, ih hnodup.2, List.mem_cons, or_comm]
    refine or_congr_left ?_
    constructor
    · rintro ⟨-, rfl, rfl⟩
      rfl
    · rintro rfl
      exact ⟨hnodup.1, rfl, rfl⟩

/-- The names of the entries of two rows of one width are those of the first row. -/
theorem lookup_columns_eq_none_iff {names values : List Text}
    (hlength : names.length = values.length) (name : Text) :
    (columns names values).lookup name = none ↔ name ∉ names := by
  rw [columns, List.lookup_eq_none_iff]
  simp only [List.mem_reverse]
  constructor
  · intro hall hname
    have hfirsts : (names.zip values).map Prod.fst = names :=
      List.map_fst_zip (Nat.le_of_eq hlength)
    rw [← hfirsts, List.mem_map] at hname
    obtain ⟨entry, hentry, rfl⟩ := hname
    simpa using hall entry hentry
  · intro hname entry hentry
    have hfirst := (List.of_mem_zip hentry).1
    simpa using fun heq : name = entry.1 ↦ hname (heq ▸ hfirst)

/-- Looking a name up finds the value in the last column of that name. -/
theorem lookup_columns_eq_some_iff {names values : List Text}
    (hlength : names.length = values.length) (name value : Text) :
    (columns names values).lookup name = some value ↔ LastColumn names values name value := by
  induction names generalizing values with
  | nil => simp [columns, LastColumn]
  | cons first names ih =>
    cases values with
    | nil => simp at hlength
    | cons one values =>
      have hrest : names.length = values.length := by simpa using hlength
      have hcolumns : columns (first :: names) (one :: values) =
          columns names values ++ [(first, one)] := by
        simp [columns]
      rw [lastColumn_cons_iff, ← ih hrest, hcolumns, List.lookup_append,
        ← lookup_columns_eq_none_iff hrest]
      cases hfound : (columns names values).lookup name with
      | some found => simp
      | none =>
        by_cases hname : name = first
        · simp [hname, eq_comm]
        · simp [hname, beq_false_of_ne hname]

/-- A further column is the last one of its name. -/
theorem lastColumn_append_singleton_iff {names values : List Text}
    (hlength : names.length = values.length) (name value other raw : Text) :
    LastColumn (names ++ [name]) (values ++ [value]) other raw ↔
      if other = name then raw = value else LastColumn names values other raw := by
  have hlonger : (names ++ [name]).length = (values ++ [value]).length := by simp [hlength]
  have hcolumns : columns (names ++ [name]) (values ++ [value]) =
      (name, value) :: columns names values := by
    simp [columns, List.zip_append hlength]
  rw [← lookup_columns_eq_some_iff hlonger, ← lookup_columns_eq_some_iff hlength, hcolumns,
    List.lookup_cons]
  by_cases hname : other = name
  · simp [hname, eq_comm]
  · rw [beq_false_of_ne hname, if_neg hname]

/-- A name has one value in its last column. -/
theorem LastColumn.unique {names values : List Text} (hlength : names.length = values.length)
    {name first second : Text} (hfirst : LastColumn names values name first)
    (hsecond : LastColumn names values name second) : first = second := by
  rw [← lookup_columns_eq_some_iff hlength] at hfirst hsecond
  rw [hfirst] at hsecond
  exact Option.some.inj hsecond

end SocketMetrics.Netstat
