import SocketMetrics.Proofs.Text.Quoted
import SocketMetrics.Proofs.Text.Word
import SocketMetrics.Text.Hexadecimal
/-!
# Where quoted text ends

`Text.SelfDelimiting` says of a way to write things that what was written can be told from whatever
follows it. The escapes of characters are so written (`selfDelimiting_escape`), because the first
character can be read off a quoted text (`firstCharacter?_escape`); rows of self-delimiting items up
to a mark are (`SelfDelimiting.row`), and therefore quoted texts and lists of them
(`selfDelimiting_quote`, `selfDelimiting_quoteList`).

A quoted text at the end of a message also tells where it begins, whatever stands in front of it:
the quotes inside it all have a backslash in front of them (`guarded_escapes`), and the quote that
opens it has a space (`eq_of_append_quote_eq`).
-/

set_option autoImplicit false
set_option relaxedAutoImplicit false

namespace SocketMetrics.Text

/-! ### Codes -/

/-- What is written of a thing can be told from what follows it. -/
def SelfDelimiting {α : Type} (code : α → Text) : Prop :=
  ∀ ⦃first second : α⦄ ⦃rest more : Text⦄,
    code first ++ rest = code second ++ more → first = second ∧ rest = more

section Codes

variable {α : Type} {code : α → Text}

/-- A code is self-delimiting when the first thing can be read off whatever begins with it. -/
theorem SelfDelimiting.of_read {read : Text → Option (α × Text)}
    (hread : ∀ item rest, read (code item ++ rest) = some (item, rest)) : SelfDelimiting code := by
  intro first second rest more heq
  have hsome := congrArg read heq
  rw [hread, hread, Option.some.injEq, Prod.mk.injEq] at hsome
  exact hsome

/-- A row of items that ends at a mark is self-delimiting when the items are and none of them
begins with the mark. -/
theorem SelfDelimiting.row (hcode : SelfDelimiting code) {mark : Char}
    (hmark : ∀ item rest more, code item ++ rest ≠ mark :: more) :
    SelfDelimiting fun items : List α ↦ items.flatMap code ++ [mark] := by
  intro first second rest more heq
  simp only [List.append_assoc, List.singleton_append] at heq
  induction first generalizing second with
  | nil =>
    cases second with
    | nil => exact ⟨rfl, (List.cons.inj heq).2⟩
    | cons item items =>
      rw [List.flatMap_cons, List.append_assoc] at heq
      exact absurd heq.symm (hmark _ _ _)
  | cons item items ih =>
    rw [List.flatMap_cons, List.append_assoc] at heq
    cases second with
    | nil => exact absurd heq (hmark _ _ _)
    | cons other others =>
      rw [List.flatMap_cons, List.append_assoc] at heq
      obtain ⟨rfl, hbehind⟩ := hcode heq
      obtain ⟨rfl, rfl⟩ := ih hbehind
      exact ⟨rfl, rfl⟩

/-- What stands in front of a code does not matter. -/
theorem SelfDelimiting.append_left (hcode : SelfDelimiting code) (lead : Text) :
    SelfDelimiting fun item ↦ lead ++ code item := by
  intro first second rest more heq
  rw [List.append_assoc, List.append_assoc, List.append_cancel_left_eq] at heq
  exact hcode heq

end Codes

/-! ### Escapes -/

/-- A hexadecimal numeral denotes its number. -/
theorem hexValue?_toDigits (n : ℕ) : hexValue? (Nat.toDigits 16 n) = some n := by
  have hdigit : ∀ digit < 16, hexDigit? (Nat.digitChar digit) = some digit := by decide
  induction n using Nat.strongRecOn with
  | ind n ih =>
    by_cases hsmall : n < 16
    · rw [Nat.toDigits_of_lt_base hsmall, hexValue?, List.foldlM_cons, hdigit n hsmall]
      simp
    · have hlast : n % 16 < 16 := Nat.mod_lt n (by decide)
      have hfront := ih (n / 16) (by omega)
      unfold hexValue? at hfront ⊢
      rw [toDigits_eq_append (Nat.le_of_not_lt hsmall), List.foldlM_append, hfront,
        Option.bind_eq_bind, Option.bind_some, List.foldlM_cons, hdigit _ hlast]
      simp [Nat.div_add_mod]

/-- The character that a letter behind a backslash stands for. -/
def ofEscapeLetter? : Char → Option Char
  | '0' => some '\x00'
  | 't' => some '\t'
  | 'r' => some '\r'
  | 'n' => some '\n'
  | '\\' => some '\\'
  | '"' => some '"'
  | _ => none

/-- Takes the first character off what stands between quotes, with what follows its escape. The
quote that ends it is no character of it. -/
def firstCharacter? : Text → Option (Char × Text)
  | '\\' :: 'u' :: '{' :: behind => do
    let (digits, rest) := cutAt '}' behind
    return (← ofCodePoint? (← hexValue? digits), ← rest)
  | '\\' :: letter :: rest => (ofEscapeLetter? letter).map (·, rest)
  | '"' :: _ => none
  | c :: rest => some (c, rest)
  | [] => none

/-- A short escape is read back. -/
theorem ofEscapeLetter?_eq {c letter : Char} (hletter : escapeLetter? c = some letter) :
    ofEscapeLetter? letter = some c ∧ letter ≠ 'u' := by
  unfold escapeLetter? at hletter
  split at hletter
  case h_7 => cases hletter
  all_goals
    cases hletter
    exact ⟨rfl, by decide⟩

/-- A character is read back from its escape. -/
theorem firstCharacter?_escape (c : Char) (rest : Text) :
    firstCharacter? (escape c ++ rest) = some (c, rest) := by
  unfold escape
  split
  · next letter hletter =>
    obtain ⟨hback, hcode⟩ := ofEscapeLetter?_eq hletter
    change firstCharacter? ('\\' :: letter :: rest) = _
    rw [firstCharacter?.eq_2 _ _ (fun _ heq ↦ absurd heq hcode), hback]
    rfl
  · next hletter =>
    have hmark : c ≠ '\\' := by rintro rfl; cases hletter
    have hquote : c ≠ '"' := by rintro rfl; cases hletter
    split
    · change firstCharacter? (c :: rest) = _
      rw [firstCharacter?.eq_4 _ _ (by simp [hmark]) (by simp [hmark]) hquote]
    · have hclose : '}' ∉ Nat.toDigits 16 c.toNat := not_mem_toDigits (by decide) _
      have hvalid : c.toNat.isValidChar := c.valid
      have hback : ofCodePoint? c.toNat = some c := by
        rw [ofCodePoint?, if_pos hvalid, Char.ofNat_toNat]
      change firstCharacter?
        ('\\' :: 'u' :: '{' :: ((Nat.toDigits 16 c.toNat ++ ['}']) ++ rest)) = _
      rw [firstCharacter?, List.append_assoc, List.singleton_append, cutAt_append hclose]
      simp [hexValue?_toDigits, hback]

theorem selfDelimiting_escape : SelfDelimiting escape :=
  .of_read firstCharacter?_escape

/-! ### Quoted texts from the left -/

/-- A quoted text ends where its closing quote is. -/
theorem selfDelimiting_quote : SelfDelimiting quote := by
  have hopen : ∀ c rest more, escape c ++ rest ≠ '"' :: more := by
    intro c rest more heq
    have hread := firstCharacter?_escape c rest
    rw [heq] at hread
    cases hread
  exact (selfDelimiting_escape.row hopen).append_left ['"']

theorem quote_injective : Function.Injective quote := by
  intro first second heq
  exact (@selfDelimiting_quote first second [] [] (by rw [heq])).1

/-- A list of quoted texts has a separator in front of every text but the first. -/
theorem quoteList_cons (text : Text) (texts : List Text) :
    quoteList (text :: texts) =
      '[' :: (text.quote ++ (texts.flatMap (fun other ↦ [',', ' '] ++ other.quote) ++ [']'])) := by
  have hrow : [',', ' '].intercalate ((text :: texts).map quote) =
      text.quote ++ texts.flatMap fun other ↦ [',', ' '] ++ other.quote := by
    induction texts generalizing text with
    | nil => simp
    | cons other others ih =>
      rw [List.map_cons, List.map_cons, List.intercalate_cons_cons, ← List.map_cons, ih other,
        List.flatMap_cons, List.append_assoc, List.append_assoc]
  rw [quoteList, hrow, List.cons_append, List.append_assoc]

/-- A list of quoted texts ends where its closing bracket is. -/
theorem selfDelimiting_quoteList : SelfDelimiting quoteList := by
  have hrow : SelfDelimiting fun others : List Text ↦
      others.flatMap (fun other ↦ [',', ' '] ++ other.quote) ++ [']'] :=
    (selfDelimiting_quote.append_left [',', ' ']).row (by simp)
  intro first second rest more heq
  cases first with
  | nil =>
    cases second with
    | nil => exact ⟨rfl, List.append_cancel_left heq⟩
    | cons other others => simp [quoteList, quote] at heq
  | cons text texts =>
    cases second with
    | nil => simp [quoteList, quote] at heq
    | cons other others =>
      rw [quoteList_cons, quoteList_cons, List.cons_append, List.cons_append, List.cons.injEq,
        List.append_assoc text.quote, List.append_assoc other.quote] at heq
      obtain ⟨rfl, hbehind⟩ := selfDelimiting_quote heq.2
      obtain ⟨rfl, rfl⟩ := hrow hbehind
      exact ⟨rfl, rfl⟩

/-! ### Quoted texts from the right -/

/-- Every quote in the text has a backslash in front of it. -/
def Guarded (text : Text) : Prop :=
  ∀ front back, text = front ++ '"' :: back → front.getLast? = some '\\'

theorem guarded_of_not_mem {text : Text} (hquote : '"' ∉ text) : Guarded text := by
  rintro front back rfl
  simp at hquote

theorem Guarded.append {first second : Text} (hfirst : Guarded first) (hsecond : Guarded second) :
    Guarded (first ++ second) := by
  intro front back heq
  rcases List.append_eq_append_iff.mp heq with ⟨middle, rfl, hmiddle⟩ | ⟨middle, hmiddle, hback⟩
  · have hlast := hsecond middle back hmiddle
    rw [List.getLast?_append, hlast]
    rfl
  · cases middle with
    | nil =>
      have hlast := hsecond [] back hback.symm
      cases hlast
    | cons c middle =>
      obtain ⟨rfl, -⟩ := List.cons.inj hback
      exact hfirst front middle hmiddle

theorem guarded_escape (c : Char) : Guarded (escape c) := by
  unfold escape
  split
  · next letter hletter =>
    rintro front back heq
    match front, heq with
    | [], heq => cases heq
    | [mark], heq =>
      obtain ⟨rfl, -⟩ := List.cons.inj heq
      rfl
    | _ :: _ :: front, heq => simp at heq
  · next hletter =>
    have hquote : c ≠ '"' := by rintro rfl; cases hletter
    refine guarded_of_not_mem ?_
    split
    · simpa using hquote.symm
    · have hdigits : '"' ∉ Nat.toDigits 16 c.toNat := not_mem_toDigits (by decide) _
      simp [hdigits]

/-- What stands between quotes is guarded. -/
theorem guarded_escapes (text : Text) : Guarded (text.flatMap escape) := by
  induction text with
  | nil => exact guarded_of_not_mem List.not_mem_nil
  | cons c text ih => exact (guarded_escape c).append ih

/-- No quoted text has a space inside and a quoted text behind it. -/
theorem quote_ne_append_quote {front one other : Text} (hfront : front.getLast? = some ' ') :
    one.quote ≠ front ++ other.quote := by
  intro heq
  cases front with
  | nil => cases hfront
  | cons c front =>
    have hinside : one.flatMap escape ++ ['"'] = (front ++ '"' :: other.flatMap escape) ++ ['"'] :=
      (List.cons.inj heq).2.trans (by simp [quote])
    have hlast := guarded_escapes one _ _ (List.append_cancel_right hinside)
    rw [List.getLast?_cons, hlast, Option.getD_some] at hfront
    exact absurd hfront (by decide)

/-- Nothing stands between a space and a quoted text that begins with the quote behind it. -/
theorem eq_of_quote_eq_append {front middle one other : Text}
    (hspace : (front ++ middle).getLast? = some ' ') (hquote : one.quote = middle ++ other.quote) :
    middle = [] ∧ one = other := by
  by_cases hmiddle : middle = []
  · subst hmiddle
    exact ⟨rfl, quote_injective hquote⟩
  · rw [List.getLast?_append_of_ne_nil _ hmiddle] at hspace
    exact absurd hquote (quote_ne_append_quote hspace)

/-- A quoted text at the end begins behind the words that lead up to it, whatever stands in front of
them. -/
theorem eq_of_append_quote_eq {first second words one other : Text}
    (hwords : words.getLast? = some ' ')
    (heq : first ++ words ++ one.quote = second ++ words ++ other.quote) :
    first = second ∧ one = other := by
  have hlast (front : Text) : (front ++ words).getLast? = some ' ' := by
    rw [List.getLast?_append, hwords]
    rfl
  rcases List.append_eq_append_iff.mp heq with ⟨middle, hfront, hquote⟩ | ⟨middle, hfront, hquote⟩
  · obtain ⟨rfl, rfl⟩ := eq_of_quote_eq_append (hfront ▸ hlast second) hquote
    rw [List.append_nil] at hfront
    exact ⟨(List.append_cancel_right hfront).symm, rfl⟩
  · obtain ⟨rfl, rfl⟩ := eq_of_quote_eq_append (hfront ▸ hlast first) hquote
    rw [List.append_nil] at hfront
    exact ⟨List.append_cancel_right hfront, rfl⟩

end SocketMetrics.Text
