import Mathlib.Algebra.Order.Field.Rat
import Mathlib.Data.List.TakeWhile
import Mathlib.Tactic.FieldSimp
import Mathlib.Tactic.Ring
import SocketMetrics.Number.Literal
import SocketMetrics.Proofs.Number.Count
import SocketMetrics.Proofs.Number.Range
import SocketMetrics.Proofs.Text.Word
/-!
# Floating-point literals

`IsDecimal text value` says what a decimal literal looks like and which number it denotes exactly:
an optional sign before digits, with an optional point among or beside them, and an optional
exponent. `IsSpecial` lists the other literals, the names of the special values. Together these are
the texts that `ofLiteral?` reads (`exists_ofLiteral?_iff`). `exists_isPositiveFinite_iff` says
which of them are read as finite positive numbers: the decimal literals of numbers that rounding
brings neither to zero nor to infinity.
-/

set_option autoImplicit false
set_option relaxedAutoImplicit false

namespace SocketMetrics.Number

/-! ### Signs and exponents -/

/-- A sign, which may be missing, and whether it is a minus. -/
inductive IsSign : Text → Bool → Prop where
  | missing : IsSign [] false
  | plus : IsSign ['+'] false
  | minus : IsSign ['-'] true

/-- A magnitude under a sign. -/
def signed {α : Type} [Neg α] (negative : Bool) (magnitude : α) : α :=
  if negative then -magnitude else magnitude

/-- A sign is found where something else follows. -/
theorem splitSign_append {sign rest : Text} {negative : Bool} (hsign : IsSign sign negative)
    (hrest : ∀ c ∈ rest.head?, c ≠ '+' ∧ c ≠ '-') :
    splitSign (sign ++ rest) = (negative, rest) := by
  cases hsign with
  | missing =>
    cases rest with
    | nil => rfl
    | cons c rest =>
      obtain ⟨hplus, hminus⟩ := hrest c rfl
      rw [List.nil_append, splitSign]
      · rintro _ ⟨⟩
        exact hminus rfl
      · rintro _ ⟨⟩
        exact hplus rfl
  | plus => rfl
  | minus => rfl

/-- A text is its sign and what follows it. -/
theorem splitSign_spec (text : Text) :
    ∃ sign, IsSign sign (splitSign text).1 ∧ text = sign ++ (splitSign text).2 := by
  unfold splitSign
  split
  · exact ⟨['-'], .minus, rfl⟩
  · exact ⟨['+'], .plus, rfl⟩
  · exact ⟨[], .missing, rfl⟩

/-- The end of a literal, and the power of ten that it means: nothing, or a letter and a signed row
of digits. -/
inductive IsExponent : Text → ℤ → Prop where
  | missing : IsExponent [] 0
  | given {mark : Char} {sign digits : Text} {negative : Bool} (hmark : mark = 'e' ∨ mark = 'E')
      (hsign : IsSign sign negative) (hdigits : isNumeral digits = true) :
      IsExponent (mark :: (sign ++ digits)) (signed negative (digitsValue digits))

/-- A row of digits does not begin with a sign. -/
theorem ne_sign_of_isDigit {c : Char} (hdigit : c.isDigit = true) : c ≠ '+' ∧ c ≠ '-' := by
  constructor <;> rintro rfl <;> exact absurd hdigit (by decide)

theorem exponentPart?_cons (mark : Char) (rest : Text) :
    exponentPart? (mark :: rest) =
      if mark = 'e' ∨ mark = 'E' then
        if isNumeral (splitSign rest).2 then
          some (signed (splitSign rest).1 (digitsValue (splitSign rest).2 : ℤ))
        else none
      else none := rfl

/-- The ends of literals are the texts that are read as such. -/
theorem exponentPart?_eq_some_iff {text : Text} {exponent : ℤ} :
    exponentPart? text = some exponent ↔ IsExponent text exponent := by
  constructor
  · intro hread
    cases text with
    | nil =>
      cases hread
      exact .missing
    | cons mark rest =>
      obtain ⟨sign, hsign, hrest⟩ := splitSign_spec rest
      rw [exponentPart?_cons] at hread
      split at hread
      · next hmark =>
        split at hread
        · next hdigits =>
          have hgiven := IsExponent.given hmark hsign hdigits
          rwa [← hrest, Option.some.inj hread] at hgiven
        · cases hread
      · cases hread
  · intro hexponent
    cases hexponent with
    | missing => rfl
    | @given mark sign digits negative hmark hsign hdigits =>
      have hfirst : ∀ c ∈ digits.head?, c ≠ '+' ∧ c ≠ '-' := fun c hc ↦
        ne_sign_of_isDigit ((isNumeral_iff.mp hdigits).2 c (List.mem_of_mem_head? hc))
      rw [exponentPart?_cons, if_pos hmark, splitSign_append hsign hfirst, if_pos hdigits]

/-! ### Decimal literals -/

/-- An unsigned literal and the number that it denotes: digits with an optional point among or
beside them, and an exponent. -/
inductive IsMagnitude : Text → ℚ → Prop where
  | whole {whole ending : Text} {exponent : ℤ} (hwhole : isNumeral whole = true)
      (hending : IsExponent ending exponent) :
      IsMagnitude (whole ++ ending) (digitsValue whole * 10 ^ exponent)
  | pointed {whole places ending : Text} {exponent : ℤ} (hwhole : AllDigits whole)
      (hplaces : AllDigits places) (hsome : whole ≠ [] ∨ places ≠ [])
      (hending : IsExponent ending exponent) :
      IsMagnitude (whole ++ '.' :: (places ++ ending))
        ((digitsValue whole + digitsValue places / 10 ^ places.length) * 10 ^ exponent)

/-- The end of a literal does not begin with a digit. -/
theorem IsExponent.head {text : Text} {exponent : ℤ} (hexponent : IsExponent text exponent) :
    ∀ c ∈ text.head?, c.isDigit = false ∧ c ≠ '.' := by
  cases hexponent with
  | missing => simp
  | given hmark hsign hdigits =>
    rintro c ⟨⟩
    rcases hmark with rfl | rfl <;> decide

/-- Digits without a point are read with what ends the literal. -/
theorem unsignedLiteral?_whole {whole ending : Text} (hwhole : AllDigits whole)
    (hending : ∀ c ∈ ending.head?, c.isDigit = false ∧ c ≠ '.') :
    unsignedLiteral? (whole ++ ending) =
      if whole = [] then none
      else (exponentPart? ending).map fun exponent : ℤ ↦ (digitsValue whole, exponent) := by
  unfold unsignedLiteral?
  rw [spanDigits_append hwhole fun c hc ↦ (hending c hc).1]
  dsimp only
  split
  · exact absurd rfl (hending '.' rfl).2
  · simp

/-- Digits around a point are read with what ends the literal. -/
theorem unsignedLiteral?_pointed {whole places ending : Text} (hwhole : AllDigits whole)
    (hplaces : AllDigits places) (hending : ∀ c ∈ ending.head?, c.isDigit = false) :
    unsignedLiteral? (whole ++ '.' :: (places ++ ending)) =
      if whole = [] ∧ places = [] then none
      else (exponentPart? ending).map fun exponent : ℤ ↦
        (digitsValue (whole ++ places), exponent - places.length) := by
  have hpoint : ∀ c ∈ ('.' :: (places ++ ending)).head?, c.isDigit = false := by
    rintro c ⟨⟩
    decide
  unfold unsignedLiteral?
  rw [spanDigits_append hwhole hpoint]
  simp only [spanDigits_append hplaces hending, Bool.and_eq_true, List.isEmpty_iff]

/-- Digits taken together and scaled down by the number of places are the digits around a point. -/
theorem digitsValue_append_mul (whole places : Text) (exponent : ℤ) :
    (digitsValue (whole ++ places) : ℚ) * 10 ^ (exponent - places.length) =
      (digitsValue whole + digitsValue places / 10 ^ places.length) * 10 ^ exponent := by
  rw [digitsValue_append, zpow_sub₀ (by norm_num), zpow_natCast]
  push_cast
  field_simp

/-- What is read as an unsigned literal is one, and denotes the digits times the power of ten. -/
theorem isMagnitude_of_unsignedLiteral? {text : Text} {digits : ℕ} {exponent : ℤ}
    (hread : unsignedLiteral? text = some (digits, exponent)) :
    IsMagnitude text (digits * 10 ^ exponent) := by
  obtain ⟨hwhole, hafter, htext⟩ := spanDigits_spec text
  generalize (spanDigits text).1 = whole at *
  generalize (spanDigits text).2 = after at *
  subst htext
  by_cases hpoint : ∃ tail, after = '.' :: tail
  · obtain ⟨tail, rfl⟩ := hpoint
    obtain ⟨hplaces, hending, htail⟩ := spanDigits_spec tail
    rw [htail] at hread ⊢
    rw [unsignedLiteral?_pointed hwhole hplaces hending] at hread
    split at hread
    · cases hread
    · next hsome =>
      obtain ⟨exponent, hexponent, hresult⟩ := Option.map_eq_some_iff.mp hread
      cases hresult
      rw [digitsValue_append_mul]
      exact .pointed hwhole hplaces (not_and_or.mp hsome) (exponentPart?_eq_some_iff.mp hexponent)
  · have hending : ∀ c ∈ after.head?, c.isDigit = false ∧ c ≠ '.' := by
      intro c hc
      refine ⟨hafter c hc, ?_⟩
      rintro rfl
      exact hpoint (List.head?_eq_some_iff.mp hc)
    rw [unsignedLiteral?_whole hwhole hending] at hread
    split at hread
    · cases hread
    · next hsome =>
      obtain ⟨exponent, hexponent, hresult⟩ := Option.map_eq_some_iff.mp hread
      cases hresult
      exact .whole (isNumeral_iff.mpr ⟨hsome, hwhole⟩) (exponentPart?_eq_some_iff.mp hexponent)

/-- An unsigned literal is read, and its number is the digits times the power of ten. -/
theorem IsMagnitude.read {text : Text} {value : ℚ} (hmagnitude : IsMagnitude text value) :
    ∃ (digits : ℕ) (exponent : ℤ), unsignedLiteral? text = some (digits, exponent) ∧
      value = digits * 10 ^ exponent := by
  cases hmagnitude with
  | @whole whole ending exponent hwhole hending =>
    obtain ⟨hsome, hdigits⟩ := isNumeral_iff.mp hwhole
    refine ⟨digitsValue whole, exponent, ?_, rfl⟩
    rw [unsignedLiteral?_whole hdigits hending.head, if_neg hsome,
      exponentPart?_eq_some_iff.mpr hending, Option.map_some]
  | @pointed whole places ending exponent hwhole hplaces hsome hending =>
    refine ⟨digitsValue (whole ++ places), exponent - places.length, ?_,
      (digitsValue_append_mul whole places exponent).symm⟩
    rw [unsignedLiteral?_pointed hwhole hplaces fun c hc ↦ (hending.head c hc).1,
      if_neg (not_and_or.mpr hsome), exponentPart?_eq_some_iff.mpr hending, Option.map_some]

/-- An unsigned literal begins with a digit or the point. -/
theorem IsMagnitude.exists_head {text : Text} {value : ℚ} (hmagnitude : IsMagnitude text value) :
    ∃ c rest, text = c :: rest ∧ (c.isDigit = true ∨ c = '.') := by
  cases hmagnitude with
  | @whole whole ending _ hwhole _ =>
    obtain ⟨hsome, hdigits⟩ := isNumeral_iff.mp hwhole
    obtain ⟨c, digits, rfl⟩ := List.exists_cons_of_ne_nil hsome
    exact ⟨c, digits ++ ending, rfl, Or.inl (hdigits c List.mem_cons_self)⟩
  | @pointed whole places ending _ hwhole _ _ _ =>
    cases whole with
    | nil => exact ⟨'.', places ++ ending, rfl, Or.inr rfl⟩
    | cons c digits =>
      exact ⟨c, digits ++ '.' :: (places ++ ending), rfl, Or.inl (hwhole c List.mem_cons_self)⟩

/-- An unsigned literal does not begin with a sign. -/
theorem IsMagnitude.head {text : Text} {value : ℚ} (hmagnitude : IsMagnitude text value) :
    ∀ c ∈ text.head?, c ≠ '+' ∧ c ≠ '-' := by
  obtain ⟨c, rest, rfl, hdigit | rfl⟩ := hmagnitude.exists_head
  · rintro _ ⟨⟩
    exact ne_sign_of_isDigit hdigit
  · rintro _ ⟨⟩
    decide

/-- A decimal literal and the number that it denotes: an unsigned literal behind a sign. -/
inductive IsDecimal : Text → ℚ → Prop where
  | mk {sign rest : Text} {negative : Bool} {magnitude : ℚ} (hsign : IsSign sign negative)
      (hmagnitude : IsMagnitude rest magnitude) :
      IsDecimal (sign ++ rest) (signed negative magnitude)

/-! ### All literals -/

/-- The literals of the special values: their names behind a sign, in any case of the letters. -/
inductive IsSpecial : Text → Prop where
  | mk {sign name : Text} {negative : Bool} (hsign : IsSign sign negative)
      (hname : name.map Char.toLower ∈ ["nan".toList, "inf".toList, "infinity".toList]) :
      IsSpecial (sign ++ name)

/-- What is read from a literal: its digits and its exponent, rounded, or a special value. -/
theorem ofLiteral?_eq (text : Text) :
    Binary64.ofLiteral? text =
      match unsignedLiteral? (splitSign text).2 with
      | some (digits, exponent) => some (.ofDecimal (splitSign text).1 digits exponent)
      | none =>
        if (splitSign text).2.map Char.toLower = "nan".toList then some (.nan (splitSign text).1)
        else if (splitSign text).2.map Char.toLower = "inf".toList ∨
            (splitSign text).2.map Char.toLower = "infinity".toList then
          some (.infinity (splitSign text).1)
        else none := rfl

/-- A decimal literal is read as the digits and the exponent that it denotes, rounded. -/
theorem IsDecimal.read {text : Text} {value : ℚ} (hdecimal : IsDecimal text value) :
    ∃ (negative : Bool) (digits : ℕ) (exponent : ℤ),
      value = signed negative (digits * 10 ^ exponent : ℚ) ∧
        Binary64.ofLiteral? text = some (.ofDecimal negative digits exponent) := by
  obtain ⟨hsign, hmagnitude⟩ := hdecimal
  obtain ⟨digits, exponent, hread, rfl⟩ := hmagnitude.read
  refine ⟨_, digits, exponent, rfl, ?_⟩
  rw [ofLiteral?_eq, splitSign_append hsign hmagnitude.head, hread]

/-- What is read is a decimal literal or a special one, which is not finite. -/
theorem isDecimal_or_isSpecial {text : Text} {x : Binary64}
    (hread : Binary64.ofLiteral? text = some x) :
    (∃ (negative : Bool) (digits : ℕ) (exponent : ℤ),
      IsDecimal text (signed negative (digits * 10 ^ exponent : ℚ)) ∧
        x = .ofDecimal negative digits exponent) ∨ IsSpecial text ∧ x.isFinite = false := by
  obtain ⟨sign, hsign, htext⟩ := splitSign_spec text
  rw [ofLiteral?_eq] at hread
  split at hread
  · next digits exponent hunsigned =>
    have hdecimal := IsDecimal.mk hsign (isMagnitude_of_unsignedLiteral? hunsigned)
    rw [← htext] at hdecimal
    exact Or.inl ⟨_, digits, exponent, hdecimal, (Option.some.inj hread).symm⟩
  · have hspecial (hname : (splitSign text).2.map Char.toLower ∈
        ["nan".toList, "inf".toList, "infinity".toList]) : IsSpecial text := by
      have hmk := IsSpecial.mk hsign hname
      rwa [← htext] at hmk
    have hnan (negative : Bool) : (Binary64.nan negative).isFinite = false := by
      cases negative <;> decide
    have hinfinity (negative : Bool) : (Binary64.infinity negative).isFinite = false := by
      cases negative <;> decide
    split at hread
    · next hname =>
      cases hread
      exact Or.inr ⟨hspecial (by simp [hname]), hnan _⟩
    · split at hread
      · next hname =>
        cases hread
        exact Or.inr ⟨hspecial (by rcases hname with hname | hname <;> simp [hname]), hinfinity _⟩
      · cases hread

/-- A digit is no letter, and has no lower case of its own. -/
theorem toLower_of_isDigit {c : Char} (hdigit : c.isDigit = true) : c.toLower = c := by
  rw [Char.isDigit_iff_toNat] at hdigit
  refine dif_neg ?_
  rintro ⟨hupper, -⟩
  have hletter : 'A'.toNat ≤ c.toNat := hupper
  have hbelow : '9'.toNat < 'A'.toNat := by decide
  omega

/-- The name of a special value begins with a letter, which is neither a sign nor what an unsigned
literal begins with. -/
theorem exists_head_of_special {name : Text}
    (hname : name.map Char.toLower ∈ ["nan".toList, "inf".toList, "infinity".toList]) :
    ∃ c rest, name = c :: rest ∧ (c ≠ '+' ∧ c ≠ '-') ∧ ¬ (c.isDigit = true ∨ c = '.') := by
  cases name with
  | nil => simp at hname
  | cons c rest =>
    have hlower : c.toLower = 'n' ∨ c.toLower = 'i' := by
      simp only [List.map_cons, List.mem_cons, List.not_mem_nil, or_false] at hname
      rcases hname with hname | hname | hname
      · exact Or.inl (List.cons.inj hname).1
      · exact Or.inr (List.cons.inj hname).1
      · exact Or.inr (List.cons.inj hname).1
    refine ⟨c, rest, rfl, ⟨?_, ?_⟩, ?_⟩
    · rintro rfl
      exact absurd hlower (by decide)
    · rintro rfl
      exact absurd hlower (by decide)
    · rintro (hdigit | rfl)
      · rw [toLower_of_isDigit hdigit] at hlower
        rcases hlower with rfl | rfl <;> exact absurd hdigit (by decide)
      · exact absurd hlower (by decide)

/-- The literal of a special value is read. -/
theorem IsSpecial.read {text : Text} (hspecial : IsSpecial text) :
    ∃ x, Binary64.ofLiteral? text = some x := by
  obtain @⟨sign, name, negative, hsign, hname⟩ := hspecial
  obtain ⟨c, rest, rfl, hletter, hhead⟩ := exists_head_of_special hname
  have hnone : unsignedLiteral? (c :: rest) = none := by
    cases hunsigned : unsignedLiteral? (c :: rest) with
    | none => rfl
    | some result =>
      obtain ⟨_, _, hcons, hfirst⟩ := (isMagnitude_of_unsignedLiteral? hunsigned).exists_head
      cases hcons
      exact absurd hfirst hhead
  have hsplit : splitSign (sign ++ c :: rest) = (negative, c :: rest) :=
    splitSign_append hsign (by simpa using hletter)
  simp only [List.mem_cons, List.not_mem_nil, or_false] at hname
  simp only [ofLiteral?_eq, hsplit, hnone]
  split
  · exact ⟨_, rfl⟩
  · next hnan =>
    rw [if_pos (hname.resolve_left hnan)]
    exact ⟨_, rfl⟩

/-- The texts that are read are the literals. -/
theorem exists_ofLiteral?_iff {text : Text} :
    (∃ x, Binary64.ofLiteral? text = some x) ↔
      (∃ value, IsDecimal text value) ∨ IsSpecial text := by
  constructor
  · rintro ⟨x, hread⟩
    rcases isDecimal_or_isSpecial hread with ⟨_, _, _, hdecimal, -⟩ | ⟨hspecial, -⟩
    · exact Or.inl ⟨_, hdecimal⟩
    · exact Or.inr hspecial
  · rintro (⟨value, hdecimal⟩ | hspecial)
    · obtain ⟨negative, digits, exponent, -, hread⟩ := hdecimal.read
      exact ⟨_, hread⟩
    · exact hspecial.read

/-- The literals of finite positive numbers are the decimal ones between underflow and overflow. -/
theorem exists_isPositiveFinite_iff {text : Text} :
    (∃ x, Binary64.ofLiteral? text = some x ∧ x.IsPositiveFinite) ↔
      ∃ value, IsDecimal text value ∧ underflow < value ∧ value < overflow := by
  have hrange (negative : Bool) (digits : ℕ) (exponent : ℤ) :
      (Binary64.ofDecimal negative digits exponent).IsPositiveFinite ↔
        underflow < signed negative (digits * 10 ^ exponent : ℚ) ∧
          signed negative (digits * 10 ^ exponent : ℚ) < overflow := by
    rw [isPositiveFinite_ofDecimal_iff]
    cases negative with
    | false => simp [signed]
    | true =>
      have hnonneg : (0 : ℚ) ≤ digits * 10 ^ exponent := by positivity
      refine iff_of_false (by simp) ?_
      rintro ⟨hpositive, -⟩
      exact (hpositive.trans_le (neg_nonpos.mpr hnonneg)).not_gt underflow_pos
  constructor
  · rintro ⟨x, hread, hfinite⟩
    rcases isDecimal_or_isSpecial hread with
      ⟨negative, digits, exponent, hdecimal, rfl⟩ | ⟨-, hspecial⟩
    · exact ⟨_, hdecimal, (hrange ..).mp hfinite⟩
    · rw [hfinite.1] at hspecial
      cases hspecial
  · rintro ⟨value, hdecimal, hvalue⟩
    obtain ⟨negative, digits, exponent, rfl, hread⟩ := hdecimal.read
    exact ⟨_, hread, (hrange ..).mpr hvalue⟩

/-! ### White space -/

theorem AllDigits.isBlank {digits : Text} (hdigits : AllDigits digits) :
    ∀ c ∈ digits, Text.isBlank c = false :=
  fun c hc ↦ Text.isBlank_of_isDigit (hdigits c hc)

theorem IsSign.isBlank {sign : Text} {negative : Bool} (hsign : IsSign sign negative) :
    ∀ c ∈ sign, Text.isBlank c = false := by
  cases hsign with
  | missing => simp
  | plus => exact List.forall_mem_singleton.mpr (by decide)
  | minus => exact List.forall_mem_singleton.mpr (by decide)

theorem IsExponent.isBlank {text : Text} {exponent : ℤ} (hexponent : IsExponent text exponent) :
    ∀ c ∈ text, Text.isBlank c = false := by
  cases hexponent with
  | missing => simp
  | given hmark hsign hdigits =>
    have hblank (mark : Char) (hmark : mark = 'e' ∨ mark = 'E') : Text.isBlank mark = false := by
      rcases hmark with rfl | rfl <;> decide
    exact List.forall_mem_cons.mpr ⟨hblank _ hmark, List.forall_mem_append.mpr
      ⟨hsign.isBlank, AllDigits.isBlank (isNumeral_iff.mp hdigits).2⟩⟩

theorem IsMagnitude.isBlank {text : Text} {value : ℚ} (hmagnitude : IsMagnitude text value) :
    ∀ c ∈ text, Text.isBlank c = false := by
  cases hmagnitude with
  | whole hwhole hending =>
    exact List.forall_mem_append.mpr
      ⟨AllDigits.isBlank (isNumeral_iff.mp hwhole).2, hending.isBlank⟩
  | pointed hwhole hplaces _ hending =>
    exact List.forall_mem_append.mpr ⟨hwhole.isBlank, List.forall_mem_cons.mpr
      ⟨by decide, List.forall_mem_append.mpr ⟨hplaces.isBlank, hending.isBlank⟩⟩⟩

/-- A decimal literal has no white space. -/
theorem IsDecimal.isBlank {text : Text} {value : ℚ} (hdecimal : IsDecimal text value) :
    ∀ c ∈ text, Text.isBlank c = false := by
  obtain ⟨hsign, hmagnitude⟩ := hdecimal
  exact List.forall_mem_append.mpr ⟨hsign.isBlank, hmagnitude.isBlank⟩

end SocketMetrics.Number
