import SocketMetrics.Proofs.Netstat.Format
import SocketMetrics.Proofs.Text.Cut
/-!
# Tables read in part

What reading the front of a content can make of a content that can be read as a whole. A cut never
brings up a section that the content has not, and it never moves a value to another name: the rows
of a section that is read from the front are the rows of the whole, except that the last value may
be cut short (`rowsOf_front`). Reading asks for no line feed behind the last value, so a value that
is cut short can look complete, and then the counter is wrong. `partial_read_agrees_iff` says when
this happens: exactly when the cut goes through the last value of a section that has all of its
other values in front of the cut, unless that value counts the drops and the overflows take the
difference out again.
-/

set_option autoImplicit false
set_option relaxedAutoImplicit false

namespace SocketMetrics.Netstat

open Number

/-! ### The rows in front of a cut -/

/-- The last value of a section is cut short. -/
def CutShort (values whole : List Text) : Prop :=
  ∃ before cut more, values = before ++ [cut] ∧ whole = before ++ [cut ++ more] ∧ more ≠ []

/-- A cut goes through one line. -/
theorem rowsOf_cut (of : Section) (front rest : Text) :
    ∃ before stub head later,
      rowsOf of front.lines = rowsOf of before ++ rowsOf of [stub] ∧
      rowsOf of (Text.lines (front ++ rest)) =
        rowsOf of before ++ rowsOf of [stub ++ head] ++ rowsOf of later := by
  obtain ⟨before, stub, head, later, hfront, -, hwhole⟩ := Text.lines_append front rest
  refine ⟨before, stub, head, later, ?_, ?_⟩
  · rw [hfront, rowsOf_append]
  · rw [hwhole, List.append_cons, rowsOf_append, rowsOf_append]

/-- The row of a line that is cut: it keeps its first cells, or its last cell is cut short, or the
cut goes through the header and there is no cell. -/
theorem row?_cut {of : Section} {cells : List Text} {stub : Text} (head : Text)
    (hrow : row? stub = some (of, cells)) :
    cells = [] ∨
      (∃ others, row? (stub ++ head) = some (of, cells ++ others)) ∨
      ∃ before cut more others, cells = before ++ [cut] ∧
        row? (stub ++ head) = some (of, before ++ (cut ++ more) :: others) ∧ more ≠ [] := by
  obtain ⟨header, hwords, hfound⟩ := row?_eq_some_iff.mp hrow
  rcases Text.words_append stub head with ⟨others, hwhole⟩ |
    ⟨before, cut, more, others, hfront, hwhole, hmore⟩
  · refine Or.inr (Or.inl ⟨others, row?_eq_some_iff.mpr ⟨header, ?_, hfound⟩⟩)
    rw [hwhole, hwords, List.cons_append]
  · rw [hwords] at hfront
    cases before with
    | nil =>
      rw [List.nil_append, List.cons.injEq] at hfront
      exact Or.inl hfront.2
    | cons first before =>
      rw [List.cons_append, List.cons.injEq] at hfront
      obtain ⟨rfl, hcells⟩ := hfront
      refine Or.inr (Or.inr ⟨before, cut, more, others, hcells, ?_, hmore⟩)
      exact row?_eq_some_iff.mpr ⟨header, hwhole, hfound⟩

/-- A section with two rows of one width in front of a cut and as a whole has the same two rows,
except that the last value may be cut short. -/
theorem rowsOf_front {of : Section} {front rest : Text} {names values names' values' : List Text}
    (hfront : rowsOf of front.lines = [names, values])
    (hwhole : rowsOf of (Text.lines (front ++ rest)) = [names', values'])
    (hlength : names.length = values.length) (hlength' : names'.length = values'.length) :
    names' = names ∧ (values' = values ∨ CutShort values values') := by
  obtain ⟨before, stub, head, later, hbefore, hboth⟩ := rowsOf_cut of front rest
  rw [hfront] at hbefore
  rw [hwhole] at hboth
  by_cases hstub : ∃ cells, row? stub = some (of, cells)
  · obtain ⟨cells, hrow⟩ := hstub
    rw [rowsOf_singleton_of_row? hrow, if_pos rfl] at hbefore
    obtain ⟨hnames, hvalues⟩ := List.append_inj' (show [names] ++ [values] = _ from hbefore) rfl
    obtain rfl := (List.cons.inj hvalues).1
    rw [← hnames, List.append_assoc, List.singleton_append, List.cons.injEq] at hboth
    obtain ⟨rfl, hrest⟩ := hboth
    refine ⟨rfl, ?_⟩
    -- the second row of the whole is as wide as the first, which leaves it no further cell
    rcases row?_cut head hrow with hnone | ⟨others, hwider⟩ |
      ⟨start, cut, more, others, hcells, hwider, hmore⟩
    · left
      rw [hnone] at hlength ⊢
      rw [hlength] at hlength'
      exact List.length_eq_zero_iff.mp hlength'.symm
    · left
      rw [rowsOf_singleton_of_row? hwider, if_pos rfl, List.singleton_append,
        List.cons.injEq] at hrest
      rw [hrest.1, hlength, List.length_append, Nat.left_eq_add, List.length_eq_zero_iff] at hlength'
      rw [hrest.1, hlength', List.append_nil]
    · right
      rw [rowsOf_singleton_of_row? hwider, if_pos rfl, List.singleton_append,
        List.cons.injEq] at hrest
      rw [hrest.1, hlength, hcells] at hlength'
      have hothers : others = [] := by
        rw [← List.length_eq_zero_iff]
        simp only [List.length_append, List.length_cons, List.length_nil] at hlength'
        omega
      exact ⟨start, cut, more, hcells, by rw [hrest.1, hothers], hmore⟩
  · have hnone : rowsOf of [stub] = [] := by
      by_contra hrows
      obtain ⟨line, hline, cells, hrow⟩ := mem_sectionsOf.mp (mem_sectionsOf_iff_rowsOf_ne_nil.mpr hrows)
      rw [List.mem_singleton.mp hline] at hrow
      exact hstub ⟨cells, hrow⟩
    rw [hnone, List.append_nil] at hbefore
    rw [← hbefore, List.append_assoc] at hboth
    simp only [List.cons_append, List.nil_append, List.cons.injEq] at hboth
    exact ⟨hboth.1, Or.inl hboth.2.1⟩

/-! ### Values that are cut short -/

/-- A value that is cut short shows, unless it counts the drops and the overflows take the
difference out again. -/
def Spoils (names values : List Text) (name cut whole : Text) : Prop :=
  name = listenDrops → ∃ drops total overflows, IsCount cut drops ∧ IsCount whole total ∧
    OverflowCount (names ++ [name]) (values ++ [cut]) overflows ∧
    drops - overflows ≠ total - overflows

section Cut

variable {names values : List Text} {name cut whole : Text}

/-- The last value is not the number of overflows when it is the number of drops. -/
theorem overflowCount_append_drops_iff (hlength : names.length = values.length) (raw : Text)
    (overflows : ℕ) :
    OverflowCount (names ++ [listenDrops]) (values ++ [raw]) overflows ↔
      OverflowCount names values overflows := by
  have hother : listenOverflows ≠ listenDrops := by decide
  simp [OverflowCount, lastColumn_append_singleton_iff hlength, hother]

/-- The value in force for the drops when they come last. -/
theorem inForce_append_drops_iff (hlength : names.length = values.length) {raw : Text}
    {drops overflows : ℕ} (hdrops : IsCount raw drops)
    (hoverflows : OverflowCount names values overflows) (shown : Text) :
    InForce (names ++ [listenDrops]) (values ++ [raw]) listenDrops shown ↔
      shown = decimal (drops - overflows) := by
  rw [InForce, if_pos rfl]
  simp only [lastColumn_append_singleton_iff hlength, if_pos,
    overflowCount_append_drops_iff hlength]
  constructor
  · rintro ⟨written, others, taken, rfl, hothers, htaken, rfl⟩
    rw [hdrops.unique hothers, hoverflows.unique hlength htaken]
  · rintro rfl
    exact ⟨raw, drops, overflows, rfl, hdrops, hoverflows, rfl⟩

/-- Cutting the last value short leaves all values of other names in force, but the drops. -/
theorem inForce_append_of_ne (hlength : names.length = values.length) (raw : Text) {other : Text}
    (hother : other ≠ name) (hdrops : other ≠ listenDrops) (shown : Text) :
    InForce (names ++ [name]) (values ++ [raw]) other shown ↔
      LastColumn names values other shown := by
  rw [InForce, if_neg hdrops, lastColumn_append_singleton_iff hlength, if_neg hother]

/-- Drops that are cut short show when the correction tells them from the whole ones. -/
theorem spoils_drops_iff (hlength : names.length = values.length) {drops total overflows : ℕ}
    (hdrops : IsCount cut drops) (htotal : IsCount whole total)
    (hoverflows : OverflowCount names values overflows) :
    Spoils names values listenDrops cut whole ↔ drops - overflows ≠ total - overflows := by
  constructor
  · intro hspoils
    obtain ⟨drops', total', overflows', hdrops', htotal', hoverflows', hne⟩ := hspoils rfl
    rw [overflowCount_append_drops_iff hlength] at hoverflows'
    rwa [hdrops.unique hdrops', htotal.unique htotal', hoverflows.unique hlength hoverflows']
  · intro hne _
    have hcount := (overflowCount_append_drops_iff hlength cut overflows).mpr hoverflows
    exact ⟨drops, total, overflows, hdrops, htotal, hcount, hne⟩

/-- When the drops are cut short, all that is in force stays in force if the corrected drops do. -/
theorem inForce_cut_drops_iff (hlength : names.length = values.length)
    {drops total overflows : ℕ} (hdrops : IsCount cut drops) (htotal : IsCount whole total)
    (hoverflows : OverflowCount names values overflows) :
    (∀ other raw, InForce (names ++ [listenDrops]) (values ++ [cut]) other raw →
        InForce (names ++ [listenDrops]) (values ++ [whole]) other raw) ↔
      drops - overflows = total - overflows := by
  constructor
  · intro hall
    have hcut := (inForce_append_drops_iff hlength hdrops hoverflows
      (decimal (drops - overflows))).mpr rfl
    have hshown := hall _ _ hcut
    rw [inForce_append_drops_iff hlength htotal hoverflows] at hshown
    exact decimal_injective hshown
  · intro hsame other raw hinForce
    by_cases hother : other = listenDrops
    · subst hother
      rw [inForce_append_drops_iff hlength hdrops hoverflows, hsame] at hinForce
      exact (inForce_append_drops_iff hlength htotal hoverflows _).mpr hinForce
    · rw [inForce_append_of_ne hlength _ hother hother] at hinForce ⊢
      exact hinForce

/-- When the last value is cut short, all that is in force stays in force unless the cut shows. -/
theorem inForce_cut_iff (hlength : names.length = values.length) (hcut : cut ≠ whole)
    (hfront : WellFormedRows (names ++ [name]) (values ++ [cut]))
    (hwhole : WellFormedRows (names ++ [name]) (values ++ [whole])) :
    (∀ other raw, InForce (names ++ [name]) (values ++ [cut]) other raw →
        InForce (names ++ [name]) (values ++ [whole]) other raw) ↔
      ¬ Spoils names values name cut whole := by
  have hlast (raw written : Text) :
      LastColumn (names ++ [name]) (values ++ [raw]) name written ↔ written = raw := by
    rw [lastColumn_append_singleton_iff hlength, if_pos rfl]
  by_cases hname : name = listenDrops
  · subst hname
    have hlisted : listenDrops ∈ names ++ [listenDrops] := by simp
    obtain ⟨_, drops, hwritten, hdrops⟩ := hfront.drops hlisted
    rw [(hlast cut _).mp hwritten] at hdrops
    obtain ⟨_, total, hwritten', htotal⟩ := hwhole.drops hlisted
    rw [(hlast whole _).mp hwritten'] at htotal
    obtain ⟨overflows, hcount⟩ := hfront.exists_overflowCount hlisted
    have hoverflows := (overflowCount_append_drops_iff hlength _ _).mp hcount
    rw [spoils_drops_iff hlength hdrops htotal hoverflows, not_not]
    exact inForce_cut_drops_iff hlength hdrops htotal hoverflows
  · have hspoils : Spoils names values name cut whole := fun hdrops ↦ absurd hdrops hname
    refine iff_of_false (fun hall ↦ hcut ?_) (not_not_intro hspoils)
    have hshown := hall name cut (by rw [InForce, if_neg hname, hlast])
    rw [InForce, if_neg hname, hlast] at hshown
    exact hshown

end Cut

/-! ### Tables -/

/-- Every section of the one table is in the other, and its counters have the same values there. -/
def Table.Agrees (part whole : Table) : Prop :=
  ∀ counters ∈ part, ∃ full ∈ whole, full.of = counters.of ∧
    ∀ name raw, counters.raw? name = some raw → full.raw? name = some raw

/-- The cut goes through the last value of a section that has all of its other values in front of
the cut, and this shows. -/
def CutsValue (front rest : Text) : Prop :=
  ∃ of names values name cut more,
    rowsOf of front.lines = [names ++ [name], values ++ [cut]] ∧
      rowsOf of (Text.lines (front ++ rest)) = [names ++ [name], values ++ [cut ++ more]] ∧
      more ≠ [] ∧ Spoils names values name cut (cut ++ more)

/-- A section that can be read from the front of a content is a section of the content. -/
theorem rowsOf_ne_nil_of_front {of : Section} {front rest : Text} {names values : List Text}
    (hfront : rowsOf of front.lines = [names, values]) :
    rowsOf of (Text.lines (front ++ rest)) ≠ [] := by
  obtain ⟨before, stub, head, later, hbefore, hwhole⟩ := rowsOf_cut of front rest
  rw [hwhole]
  intro hnone
  have hempty : rowsOf of before = [] := by
    rw [List.append_assoc, List.append_eq_nil_iff] at hnone
    exact hnone.1
  have hlength : (rowsOf of [stub]).length ≤ 1 := List.length_filterMap_le _ [stub]
  rw [hempty, List.nil_append, hfront] at hbefore
  rw [← hbefore] at hlength
  simp at hlength

section Tables

variable {front rest : Text} {part whole : Table}

/-- The sections of a table read from the front of a content are sections of the whole table. -/
theorem mem_map_of_of_front (hpart : (Table.read front).table = .ok part)
    (hwhole : (Table.read (front ++ rest)).table = .ok whole) {of : Section}
    (hof : of ∈ part.map Counters.of) : of ∈ whole.map Counters.of := by
  have hrows := ((shows_of_read hpart).mem_iff of).mp hof
  obtain ⟨names, values, hrows, -⟩ := exists_read_eq_ok_iff.mp ⟨part, hpart⟩ of hrows
  exact ((shows_of_read hwhole).mem_iff of).mpr (rowsOf_ne_nil_of_front hrows)

/-- Two tables agree when what is in force in the rows of the one is in force in the rows of the
other. -/
theorem agrees_iff (hpart : (Table.read front).table = .ok part)
    (hwhole : (Table.read (front ++ rest)).table = .ok whole) :
    part.Agrees whole ↔ ∀ of names values names' values',
      rowsOf of front.lines = [names, values] →
        rowsOf of (Text.lines (front ++ rest)) = [names', values'] →
          ∀ name raw, InForce names values name raw → InForce names' values' name raw := by
  have hfront := shows_of_read hpart
  have hcontent := shows_of_read hwhole
  constructor
  · intro hagrees of names values names' values' hrows hrows' name raw hinForce
    have hmem : of ∈ part.map Counters.of := (hfront.mem_iff of).mpr (by simp [hrows])
    obtain ⟨counters, hcounters, rfl⟩ := List.mem_map.mp hmem
    obtain ⟨full, hfull, hof, hraw⟩ := hagrees counters hcounters
    obtain ⟨first, second, hshown, hraw?⟩ := hfront.raw?_iff counters hcounters
    obtain ⟨first', second', hshown', hraw?'⟩ := hcontent.raw?_iff full hfull
    rw [hrows] at hshown
    rw [hof, hrows'] at hshown'
    cases hshown
    cases hshown'
    exact (hraw?' name raw).mp (hraw name raw ((hraw? name raw).mpr hinForce))
  · intro hall counters hcounters
    have hmem : counters.of ∈ whole.map Counters.of :=
      mem_map_of_of_front hpart hwhole (List.mem_map_of_mem hcounters)
    obtain ⟨full, hfull, hof⟩ := List.mem_map.mp hmem
    obtain ⟨names, values, hrows, hraw?⟩ := hfront.raw?_iff counters hcounters
    obtain ⟨names', values', hrows', hraw?'⟩ := hcontent.raw?_iff full hfull
    rw [hof] at hrows'
    refine ⟨full, hfull, hof, fun name raw hraw ↦ ?_⟩
    exact (hraw?' name raw).mpr
      (hall _ names values names' values' hrows hrows' name raw ((hraw? name raw).mp hraw))

/-- A table read from the front of a content agrees with the whole table unless the cut goes
through a value and shows. -/
theorem agrees_iff_not_cutsValue (hpart : (Table.read front).table = .ok part)
    (hwhole : (Table.read (front ++ rest)).table = .ok whole) :
    part.Agrees whole ↔ ¬ CutsValue front rest := by
  rw [agrees_iff hpart hwhole]
  constructor
  · rintro hall ⟨of, names, values, name, cut, more, hrows, hrows', hmore, hspoils⟩
    have hfront := wellFormedRows_of_read hpart hrows
    have hlength : names.length = values.length := by simpa using hfront.length_eq
    have hcut : cut ≠ cut ++ more := fun heq ↦ hmore (List.self_eq_append_right.mp heq)
    exact (inForce_cut_iff hlength hcut hfront (wellFormedRows_of_read hwhole hrows')).mp
      (hall of _ _ _ _ hrows hrows') hspoils
  · intro hnot of names values names' values' hrows hrows'
    have hfront := wellFormedRows_of_read hpart hrows
    have hcontent := wellFormedRows_of_read hwhole hrows'
    obtain ⟨rfl, rfl | ⟨before, cut, more, rfl, rfl, hmore⟩⟩ :=
      rowsOf_front hrows hrows' hfront.length_eq hcontent.length_eq
    · exact fun name raw hinForce ↦ hinForce
    · have hnames : names' ≠ [] := by
        rintro rfl
        simpa using hfront.length_eq
      obtain ⟨initial, name, rfl⟩ := (List.eq_nil_or_concat' names').resolve_left hnames
      have hlength : initial.length = before.length := by simpa using hfront.length_eq
      have hcut : cut ≠ cut ++ more := fun heq ↦ hmore (List.self_eq_append_right.mp heq)
      refine (inForce_cut_iff hlength hcut hfront hcontent).mpr fun hspoils ↦ hnot ?_
      exact ⟨of, initial, before, name, cut, more, hrows, hrows', hmore, hspoils⟩

end Tables

/-- Whatever is read from the front of a content that can be read, its sections are sections of the
content. Its counters have the values of the content exactly when the cut goes through no last
value of a section in such a way that it shows. -/
theorem partial_read_agrees_iff {front rest : Text} {whole : Table}
    (hwhole : (Table.read (front ++ rest)).table = .ok whole) :
    (∀ part, (Table.read front).table = .ok part →
        ∀ of, of ∈ part.map Counters.of → of ∈ whole.map Counters.of) ∧
      ((∀ part, (Table.read front).table = .ok part → part.Agrees whole) ↔
        ¬ (WellFormed front ∧ CutsValue front rest)) := by
  refine ⟨fun part hpart of hof ↦ mem_map_of_of_front hpart hwhole hof, ?_⟩
  rw [← exists_read_eq_ok_iff, not_and, forall_exists_index]
  exact forall₂_congr fun part hpart ↦ agrees_iff_not_cutsValue hpart hwhole

/-- A table of one counter is read from a content and, with another value, from a front of it that
ends within the value. -/
theorem partial_read_of_cut_value :
    (Table.read "TcpExt: A\nTcpExt: 12\n".toList).table =
        .ok [⟨.tcp, [("A".toList, "12".toList)]⟩] ∧
      (Table.read "TcpExt: A\nTcpExt: 1".toList).table =
        .ok [⟨.tcp, [("A".toList, "1".toList)]⟩] ∧
      ¬ Table.Agrees [⟨.tcp, [("A".toList, "1".toList)]⟩]
        [⟨.tcp, [("A".toList, "12".toList)]⟩] := by
  have hwhole : (Table.read ("TcpExt: A\nTcpExt: 1".toList ++ "2\n".toList)).table =
      .ok [⟨.tcp, [("A".toList, "12".toList)]⟩] := by decide
  have hpart : (Table.read "TcpExt: A\nTcpExt: 1".toList).table =
      .ok [⟨.tcp, [("A".toList, "1".toList)]⟩] := by decide
  have hcuts : CutsValue "TcpExt: A\nTcpExt: 1".toList "2\n".toList := by
    refine ⟨.tcp, [], [], "A".toList, "1".toList, "2".toList, by decide, by decide, by decide, ?_⟩
    intro hdrops
    exact absurd hdrops (by decide)
  refine ⟨hwhole, hpart, fun hagrees ↦ ?_⟩
  refine (partial_read_agrees_iff hwhole).2.mp (fun part hread ↦ ?_)
    ⟨exists_read_eq_ok_iff.mp ⟨_, hpart⟩, hcuts⟩
  rw [hpart] at hread
  rwa [← Except.ok.inj hread]

/-- A front that ends in a line feed never gives a wrong counter. -/
theorem agrees_of_lineFeed {front rest : Text} {part whole : Table}
    (hpart : (Table.read (front ++ ['\n'])).table = .ok part)
    (hwhole : (Table.read (front ++ '\n' :: rest)).table = .ok whole) : part.Agrees whole := by
  rw [List.append_cons] at hwhole
  rw [agrees_iff_not_cutsValue hpart hwhole]
  rintro ⟨of, names, values, name, cut, more, hrows, hrows', hmore, -⟩
  have hfront : rowsOf of (Text.lines (front ++ ['\n'])) = rowsOf of front.lines := by
    rw [Text.lines_append_lineFeed, rowsOf_append]
    exact List.append_nil _
  rw [← List.append_cons, Text.lines_append_lineFeed, rowsOf_append, ← hfront, hrows] at hrows'
  simp only [List.cons_append, List.nil_append, List.cons.injEq, List.append_cancel_left_eq,
    List.self_eq_append_right] at hrows'
  exact hmore hrows'.2.1.1

end SocketMetrics.Netstat
