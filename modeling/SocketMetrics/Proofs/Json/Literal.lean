import SocketMetrics.Json.Token
import SocketMetrics.Json.Writer
import SocketMetrics.Proofs.Number.Literal
import SocketMetrics.Proofs.Number.Shortest
/-!
# Numbers that were written are read back

A literal without a sign has a text (`NumberLiteral.text`). If it is plain, that is, if it has
digits wherever some are needed and no zero in front of others, it is taken off the beginning of
every text that does not go on with the number: part by part, and then as a whole
(`numberLiteral?_text`).
The canonical numeral of a counter is the text of such a literal (`token?_decimal`), and so is the
layout of every number above zero. The literal denotes the number that was laid out, and its whole
part fits 64 bits (`exists_laysOut`). There are three layouts: whole numbers in full, numbers with
places in full, and numbers with a power of ten.
-/

set_option autoImplicit false
set_option relaxedAutoImplicit false

namespace SocketMetrics.Json

open Number

/-! ### Literals without a sign -/

/-- The point and the digits behind it. -/
def placesText : Option Text → Text
  | none => []
  | some places => '.' :: places

/-- A power of ten with its sign. -/
def exponentText : Option Int → Text
  | none => []
  | some exponent => 'e' :: (if 0 ≤ exponent then ['+'] else []) ++ decimalInt exponent

namespace NumberLiteral

variable {literal : NumberLiteral}

/-- The text of a literal without a sign. -/
def text (literal : NumberLiteral) : Text :=
  literal.whole ++ (placesText literal.places ++ exponentText literal.exponent)

/-- The digits behind the point. -/
def decimals (literal : NumberLiteral) : Text :=
  literal.places.getD []

/-- The number that a literal without a sign denotes. -/
def toRat (literal : NumberLiteral) : ℚ :=
  digitsValue (literal.whole ++ literal.decimals) *
    10 ^ (literal.exponent.getD 0 - literal.decimals.length)

/-- The literal has no sign, has digits wherever some are needed, and no zero in front of others. -/
structure IsPlain (literal : NumberLiteral) : Prop where
  unsigned : literal.negative = false
  whole : isNumeral literal.whole = true
  leading : literal.whole.head? = some '0' → literal.whole = ['0']
  places : ∀ places ∈ literal.places, isNumeral places = true

end NumberLiteral

/-- The text does not go on with a number. -/
def EndsNumber (rest : Text) : Prop :=
  ∀ c ∈ rest.head?, c.isDigit = false ∧ c ≠ '.' ∧ c ≠ 'e' ∧ c ≠ 'E'

/-! ### Reading the parts -/

section Parts

variable {digits rest : Text}

/-- A row of digits is taken where something else follows. -/
theorem takeDigits?_append (hdigits : isNumeral digits = true)
    (hrest : ∀ c ∈ rest.head?, c.isDigit = false) :
    takeDigits? (digits ++ rest) = some (digits, rest) := by
  obtain ⟨hsome, hall⟩ := isNumeral_iff.mp hdigits
  rw [takeDigits?, spanDigits_append hall hrest]
  simp [hsome]

/-- No digit is a minus sign. -/
theorem takeSign_append (hdigits : isNumeral digits = true) :
    takeSign (digits ++ rest) = (false, digits ++ rest) := by
  obtain ⟨hsome, hall⟩ := isNumeral_iff.mp hdigits
  obtain ⟨c, digits, rfl⟩ := List.exists_cons_of_ne_nil hsome
  rw [List.cons_append, takeSign]
  rintro _ ⟨⟩
  exact (ne_sign_of_isDigit (hall _ List.mem_cons_self)).2 rfl

/-- The whole part is taken where something else follows. -/
theorem takeWhole?_append (hdigits : isNumeral digits = true)
    (hleading : digits.head? = some '0' → digits = ['0'])
    (hrest : ∀ c ∈ rest.head?, c.isDigit = false) :
    takeWhole? (digits ++ rest) = some (digits, rest) := by
  by_cases hzero : digits.head? = some '0'
  · rw [hleading hzero]
    rfl
  · rw [takeWhole?]
    · exact takeDigits?_append hdigits hrest
    · intro tail htail
      obtain ⟨c, digits, rfl⟩ := List.exists_cons_of_ne_nil (isNumeral_iff.mp hdigits).1
      obtain rfl := (List.cons.inj htail).1
      exact hzero rfl

/-- The point and the digits behind it are taken, if there are any, where something else follows. -/
theorem takePlaces?_append {places : Option Text}
    (hplaces : ∀ digits ∈ places, isNumeral digits = true)
    (hrest : ∀ c ∈ rest.head?, c.isDigit = false ∧ c ≠ '.') :
    takePlaces? (placesText places ++ rest) = some (places, rest) := by
  cases places with
  | none =>
    rw [placesText, List.nil_append, takePlaces?]
    rintro tail rfl
    exact (hrest '.' rfl).2 rfl
  | some digits =>
    rw [placesText, List.cons_append, takePlaces?,
      takeDigits?_append (hplaces digits rfl) fun c hc ↦ (hrest c hc).1]
    rfl

/-- A power of ten that is written with its sign is taken where something else follows. -/
theorem takeExponent?_append {exponent : Option Int} (hrest : EndsNumber rest) :
    takeExponent? (exponentText exponent ++ rest) = some (exponent, rest) := by
  have hend : ∀ c ∈ rest.head?, c.isDigit = false := fun c hc ↦ (hrest c hc).1
  cases exponent with
  | none =>
    rw [exponentText, List.nil_append, takeExponent?]
    · rintro tail rfl
      exact (hrest 'e' rfl).2.2.1 rfl
    · rintro tail rfl
      exact (hrest 'E' rfl).2.2.2 rfl
  | some exponent =>
    have hread := takeDigits?_append (isNumeral_decimal exponent.natAbs) hend
    rcases lt_or_ge exponent 0 with hbelow | habove
    · have htext : exponentText (some exponent) ++ rest =
          'e' :: '-' :: (decimal exponent.natAbs ++ rest) := by
        simp [exponentText, decimalInt, hbelow, not_le.mpr hbelow]
      simp only [htext, takeExponent?, splitSign, hread, Option.map_some, digitsValue_decimal,
        if_true]
      rw [Int.ofNat_natAbs_of_nonpos hbelow.le, neg_neg]
    · have htext : exponentText (some exponent) ++ rest =
          'e' :: '+' :: (decimal exponent.natAbs ++ rest) := by
        simp [exponentText, decimalInt, habove, not_lt.mpr habove]
      simp only [htext, takeExponent?, splitSign, hread, Option.map_some, digitsValue_decimal,
        Bool.false_eq_true, if_false]
      rw [Int.natAbs_of_nonneg habove]

/-- The power of ten and what follows it go on neither with digits nor with a point. -/
theorem head_exponentText_append (exponent : Option Int) (hrest : EndsNumber rest) :
    ∀ c ∈ (exponentText exponent ++ rest).head?, c.isDigit = false ∧ c ≠ '.' := by
  cases exponent with
  | none => exact fun c hc ↦ ⟨(hrest c hc).1, (hrest c hc).2.1⟩
  | some exponent =>
    rintro c ⟨⟩
    decide

/-- What follows on the whole part does not go on with digits. -/
theorem head_placesText_append (places : Option Text) (exponent : Option Int)
    (hrest : EndsNumber rest) :
    ∀ c ∈ (placesText places ++ (exponentText exponent ++ rest)).head?, c.isDigit = false := by
  cases places with
  | none => exact fun c hc ↦ (head_exponentText_append exponent hrest c hc).1
  | some places =>
    rintro c ⟨⟩
    decide

end Parts

/-- A plain literal is read back from its text. -/
theorem numberLiteral?_text {literal : NumberLiteral} (hplain : literal.IsPlain) {rest : Text}
    (hrest : EndsNumber rest) : numberLiteral? (literal.text ++ rest) = some (literal, rest) := by
  have htext : literal.text ++ rest = literal.whole ++
      (placesText literal.places ++ (exponentText literal.exponent ++ rest)) := by
    simp only [NumberLiteral.text, List.append_assoc]
  have hwhole := takeWhole?_append hplain.whole hplain.leading
    (head_placesText_append literal.places literal.exponent hrest)
  have hplaces := takePlaces?_append hplain.places
    (head_exponentText_append literal.exponent hrest)
  rw [htext, numberLiteral?, takeSign_append hplain.whole]
  simp only [hwhole, hplaces, takeExponent?_append hrest, Option.bind_eq_bind, Option.bind_some,
    Option.pure_def, ← hplain.unsigned]

/-- No other token begins with a digit. -/
theorem token?_of_isDigit {c : Char} (hdigit : c.isDigit = true) (rest : Text) :
    token? (c :: rest) =
      (numberLiteral? (c :: rest)).map fun read ↦ (.number read.1, read.2) := by
  rw [token?]
  all_goals
    rintro _ ⟨⟩
    exact absurd hdigit (by decide)

/-- A plain literal is read back as a token. -/
theorem token?_text {literal : NumberLiteral} (hplain : literal.IsPlain) {rest : Text}
    (hrest : EndsNumber rest) :
    token? (literal.text ++ rest) = some (.number literal, rest) := by
  have hread := numberLiteral?_text hplain hrest
  obtain ⟨hsome, hdigits⟩ := isNumeral_iff.mp hplain.whole
  obtain ⟨c, digits, hwhole⟩ := List.exists_cons_of_ne_nil hsome
  have htext : literal.text ++ rest = c :: (digits ++
      (placesText literal.places ++ (exponentText literal.exponent ++ rest))) := by
    simp only [NumberLiteral.text, hwhole, List.append_assoc, List.cons_append]
  rw [hwhole] at hdigits
  rw [htext] at hread ⊢
  rw [token?_of_isDigit (hdigits c List.mem_cons_self), hread]
  rfl

/-! ### Numerals -/

/-- No canonical numeral but that of zero begins with a zero. -/
theorem decimal_of_head {n : ℕ} (hhead : (decimal n).head? = some '0') : decimal n = ['0'] := by
  rcases Nat.eq_zero_or_pos n with rfl | hpos
  · rfl
  · -- the digits behind a zero denote too little for the length of the numeral
    obtain ⟨digits, hdigits⟩ := List.head?_eq_some_iff.mp hhead
    have hall := (isNumeral_iff.mp (isNumeral_decimal n)).2
    have hvalue : digitsValue digits = n := by
      rw [← digitsValue_decimal n, hdigits]
      exact (digitsValue_replicate_append 1 digits).symm
    have hleast := (decimal_bounds hpos).1
    rw [hdigits] at hall hleast
    have hless := digitsValue_lt fun c hc ↦ hall c (List.mem_cons_of_mem _ hc)
    rw [List.length_cons, Nat.add_sub_cancel, ← hvalue] at hleast
    exact absurd hless (not_lt.mpr hleast)

/-- The literal that is a canonical numeral. -/
def countLiteral (n : ℕ) : NumberLiteral :=
  ⟨false, decimal n, none, none⟩

/-- The canonical numeral of a number is read back as such. -/
theorem token?_decimal (n : ℕ) {rest : Text} (hrest : EndsNumber rest) :
    token? (decimal n ++ rest) = some (.number (countLiteral n), rest) := by
  have hplain : (countLiteral n).IsPlain :=
    ⟨rfl, isNumeral_decimal n, decimal_of_head, fun _ hnone ↦ absurd hnone (Option.not_mem_none _)⟩
  have htext : (countLiteral n).text = decimal n := List.append_nil _
  rw [← htext]
  exact token?_text hplain hrest

/-- A numeral is read as the counter that was written. -/
theorem count?_countLiteral (n : UInt64) : (countLiteral n.toNat).count? = some n := by
  rw [NumberLiteral.count?, countLiteral, digitsValue_decimal]
  exact toCount?_toNat n

/-! ### Layouts -/

section Layout

variable {d : Scientific}

/-- A number that is laid out: the literal, which denotes it. -/
structure LaysOut (d : Scientific) (literal : NumberLiteral) : Prop where
  text : numberNotation.layOut d = literal.text
  plain : literal.IsPlain
  toRat : literal.toRat = d.toRat
  fits : digitsValue literal.whole < 2 ^ 64

/-- The exponent of the first digit. -/
def leadingExponent (d : Scientific) : ℤ :=
  d.exponent + (decimal d.digits).length - 1

/-- Digits with the point behind the first one, if there are more. -/
def pointed : Text → Text
  | first :: second :: rest => first :: '.' :: second :: rest
  | digits => digits

/-- The layout as the notation of JSON has it. -/
theorem layOut_eq (d : Scientific) :
    numberNotation.layOut d =
      if -5 ≤ leadingExponent d ∧ leadingExponent d ≤ 15 then
        positional d ++ if 0 ≤ d.exponent then ['.', '0'] else []
      else pointed (decimal d.digits) ++ exponentText (some (leadingExponent d)) := by
  unfold Notation.layOut leadingExponent
  rcases decimal d.digits with _ | ⟨first, _ | ⟨second, rest⟩⟩ <;>
    simp only [numberNotation, pointed, exponentText, decide_eq_true_eq, Bool.true_and, and_true,
      List.append_assoc]

/-- Sixteen digits fit 64 bits. -/
theorem digitsValue_lt_of_length {digits : Text} (hdigits : AllDigits digits)
    (hlength : digits.length ≤ 16) : digitsValue digits < 2 ^ 64 :=
  calc digitsValue digits < 10 ^ digits.length := digitsValue_lt hdigits
    _ ≤ 10 ^ 16 := Nat.pow_le_pow_right (by decide) hlength
    _ < 2 ^ 64 := by norm_num

theorem allDigits_replicate (count : ℕ) : AllDigits (List.replicate count '0') := by
  intro c hc
  rw [List.eq_of_mem_replicate hc]
  rfl

variable (hdigits : 0 < d.digits)
include hdigits

/-- The numeral of a number above zero does not begin with a zero. -/
theorem head_decimal_ne : (decimal d.digits).head? ≠ some '0' := by
  intro hhead
  have hzero := digitsValue_decimal d.digits
  rw [decimal_of_head hhead] at hzero
  exact hdigits.ne hzero

/-- A whole number that is written out in full has zeros behind its digits and behind the point. -/
theorem laysOut_whole (hfirst : -5 ≤ leadingExponent d) (hlast : leadingExponent d ≤ 15)
    (hwhole : 0 ≤ d.exponent) :
    LaysOut d
      ⟨false, decimal d.digits ++ List.replicate d.exponent.toNat '0', some ['0'], none⟩ := by
  obtain ⟨hsome, hall⟩ := isNumeral_iff.mp (isNumeral_decimal d.digits)
  have hscaled : AllDigits (decimal d.digits ++ List.replicate d.exponent.toNat '0') :=
    List.forall_mem_append.mpr ⟨hall, allDigits_replicate _⟩
  constructor
  case text =>
    rw [layOut_eq, if_pos ⟨hfirst, hlast⟩, if_pos hwhole, positional, if_pos hwhole]
    rfl
  case plain =>
    refine ⟨rfl, isNumeral_iff.mpr ⟨List.append_ne_nil_of_left_ne_nil hsome _, hscaled⟩, ?_, ?_⟩
    · rw [List.head?_append_of_ne_nil _ hsome]
      exact fun hhead ↦ absurd hhead (head_decimal_ne hdigits)
    · intro places hplaces
      obtain rfl := Option.mem_some.mp hplaces
      rfl
  case toRat =>
    have hzeros : decimal d.digits ++ List.replicate d.exponent.toNat '0' ++ ['0'] =
        decimal d.digits ++ List.replicate (d.exponent.toNat + 1) '0' := by
      rw [List.append_assoc, List.replicate_succ']
    have hscale : ((d.exponent.toNat + 1 : ℕ) : ℤ) + (0 - 1) = d.exponent := by omega
    calc (digitsValue (decimal d.digits ++ List.replicate d.exponent.toNat '0' ++ ['0']) : ℚ) *
          10 ^ ((0 : ℤ) - 1)
        = d.digits * 10 ^ (d.exponent.toNat + 1) * 10 ^ ((0 : ℤ) - 1) := by
          rw [hzeros, digitsValue_append_replicate, digitsValue_decimal]
          push_cast
          rfl
      _ = d.digits * 10 ^ d.exponent := by
          rw [mul_assoc, ← zpow_natCast, ← zpow_add₀ (by norm_num), hscale]
  case fits =>
    refine digitsValue_lt_of_length hscaled ?_
    rw [List.length_append, List.length_replicate]
    unfold leadingExponent at hlast
    omega

/-- A number with places that is written out in full has its point among its digits, or zeros in
front of them. -/
theorem laysOut_places (hfirst : -5 ≤ leadingExponent d) (hlast : leadingExponent d ≤ 15)
    (hplaces : d.exponent < 0) : ∃ literal, LaysOut d literal := by
  obtain ⟨hsome, hall⟩ := isNumeral_iff.mp (isNumeral_decimal d.digits)
  obtain ⟨places, hexponent⟩ : ∃ places : ℕ, d.exponent = -(places : ℤ) :=
    ⟨(-d.exponent).toNat, by omega⟩
  obtain ⟨padded, hpadded⟩ : ∃ padded, padded =
      List.replicate (places + 1 - (decimal d.digits).length) '0' ++ decimal d.digits := ⟨_, rfl⟩
  obtain ⟨cut, hcut⟩ : ∃ cut, cut = padded.length - places := ⟨_, rfl⟩
  have hpaddedAll : AllDigits padded := by
    rw [hpadded]
    exact List.forall_mem_append.mpr ⟨allDigits_replicate _, hall⟩
  have hlength : padded.length = max (places + 1) (decimal d.digits).length := by
    rw [hpadded, List.length_append, List.length_replicate]
    omega
  have hbounds : padded.length = cut + places ∧ 0 < cut ∧ cut ≤ 16 := by
    unfold leadingExponent at hlast
    omega
  have hdrop : (padded.drop cut).length = places := by
    rw [List.length_drop]
    omega
  refine ⟨⟨false, padded.take cut, some (padded.drop cut), none⟩, ?_⟩
  constructor
  case text =>
    have hnone : (-d.exponent).toNat = places := by omega
    rw [layOut_eq, if_pos ⟨hfirst, hlast⟩, if_neg (not_le.mpr hplaces), positional,
      if_neg (not_le.mpr hplaces), hnone]
    simp only [← hpadded, ← hcut, NumberLiteral.text, placesText, exponentText, List.append_nil]
  case plain =>
    refine ⟨rfl, isNumeral_iff.mpr ⟨?_, fun c hc ↦ hpaddedAll c (List.mem_of_mem_take hc)⟩, ?_, ?_⟩
    · refine List.ne_nil_of_length_pos ?_
      rw [List.length_take]
      omega
    · intro hhead
      rcases Nat.lt_or_ge places (decimal d.digits).length with hlong | hshort
      · have hnone : places + 1 - (decimal d.digits).length = 0 := by omega
        rw [hnone, List.replicate_zero, List.nil_append] at hpadded
        rw [List.head?_take, if_neg hbounds.2.1.ne', hpadded] at hhead
        exact absurd hhead (head_decimal_ne hdigits)
      · -- a single zero stands in front of the point
        have hone : cut = 1 := by omega
        rw [List.head?_take, if_neg hbounds.2.1.ne'] at hhead
        obtain ⟨rest, hrest⟩ := List.head?_eq_some_iff.mp hhead
        rw [hone, hrest]
        rfl
    · intro digits hdigits
      obtain rfl := Option.mem_some.mp hdigits
      refine isNumeral_iff.mpr ⟨List.ne_nil_of_length_pos ?_,
        fun c hc ↦ hpaddedAll c (List.mem_of_mem_drop hc)⟩
      omega
  case toRat =>
    have hvalue : digitsValue padded = d.digits := by
      rw [hpadded, digitsValue_replicate_append, digitsValue_decimal]
    change (digitsValue (padded.take cut ++ padded.drop cut) : ℚ) *
      10 ^ ((0 : ℤ) - (padded.drop cut).length) = d.digits * 10 ^ d.exponent
    rw [List.take_append_drop, hvalue, hdrop, zero_sub, hexponent]
  case fits =>
    refine digitsValue_lt_of_length (fun c hc ↦ hpaddedAll c (List.mem_of_mem_take hc)) ?_
    rw [List.length_take]
    omega

omit hdigits in
/-- A number that is not written out in full has its point behind the first digit. -/
theorem laysOut_power (hbeyond : ¬ (-5 ≤ leadingExponent d ∧ leadingExponent d ≤ 15)) :
    ∃ literal, LaysOut d literal := by
  obtain ⟨hsome, hall⟩ := isNumeral_iff.mp (isNumeral_decimal d.digits)
  have hvalue := digitsValue_decimal d.digits
  have hlayout := layOut_eq d
  rw [if_neg hbeyond] at hlayout
  obtain ⟨first, rest, hdecimal⟩ := List.exists_cons_of_ne_nil hsome
  have hexponent : leadingExponent d - rest.length = d.exponent := by
    rw [leadingExponent, hdecimal, List.length_cons]
    omega
  rw [hdecimal] at hlayout hvalue hall
  have hfirst : AllDigits [first] := List.forall_mem_singleton.mpr (hall _ List.mem_cons_self)
  obtain ⟨places, hpoint, hdecimals, hplaces⟩ : ∃ places : Option Text,
      pointed (first :: rest) = first :: placesText places ∧ places.getD [] = rest ∧
        ∀ digits ∈ places, digits = rest ∧ digits ≠ [] := by
    cases rest with
    | nil => exact ⟨none, rfl, rfl, by simp⟩
    | cons second rest => exact ⟨some (second :: rest), rfl, rfl, by simp⟩
  refine ⟨⟨false, [first], places, some (leadingExponent d)⟩, ?_⟩
  constructor
  case text => rw [hlayout, hpoint, NumberLiteral.text, List.cons_append, List.singleton_append]
  case plain =>
    refine ⟨rfl, isNumeral_iff.mpr ⟨List.cons_ne_nil _ _, hfirst⟩, ?_, fun digits hdigits ↦ ?_⟩
    · exact fun hhead ↦ congrArg (fun c ↦ [c]) (Option.some.inj hhead)
    · obtain ⟨rfl, hnonempty⟩ := hplaces digits hdigits
      exact isNumeral_iff.mpr ⟨hnonempty, fun c hc ↦ hall c (List.mem_cons_of_mem _ hc)⟩
  case toRat =>
    change (digitsValue ([first] ++ places.getD []) : ℚ) *
      10 ^ (leadingExponent d - (places.getD []).length) = d.digits * 10 ^ d.exponent
    rw [hdecimals, List.singleton_append, hvalue, hexponent]
  case fits => exact digitsValue_lt_of_length hfirst (Nat.le_add_left 1 15)

/-- Every number above zero is laid out as a plain literal. -/
theorem exists_laysOut : ∃ literal, LaysOut d literal := by
  by_cases hfull : -5 ≤ leadingExponent d ∧ leadingExponent d ≤ 15
  · rcases lt_or_ge d.exponent 0 with hplaces | hwhole
    · exact laysOut_places hdigits hfull.1 hfull.2 hplaces
    · exact ⟨_, laysOut_whole hdigits hfull.1 hfull.2 hwhole⟩
  · exact laysOut_power hfull

end Layout

end SocketMetrics.Json
