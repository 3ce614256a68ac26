import SocketMetrics.Json.Token
import SocketMetrics.Json.Writer
/-!
# Strings that were written are read back

Whatever characters a text has, the written string of the text is taken off a longer text as the
characters of which the text consists (`token?_quote`), and these make up the text again
(`joined?_characters`). Each character is read back from its own escape (`stringRest?_escape`).
-/

set_option autoImplicit false
set_option relaxedAutoImplicit false

namespace SocketMetrics.Json

/-- The pieces of a text in which nothing is split into halves. -/
def characters (text : Text) : List Piece :=
  text.map .character

/-- Characters make up their text. -/
theorem joined?_characters (text : Text) : joined? (characters text) = some text := by
  induction text with
  | nil => rfl
  | cons c rest ih =>
    change (joined? (characters rest)).map (c :: ·) = _
    rw [ih]
    rfl

/-- What a string begins with that has a character in front. -/
def withCharacter (c : Char) (string : Option (List Piece × Text)) : Option (List Piece × Text) :=
  string.map fun read ↦ (.character c :: read.1, read.2)

/-- A letter behind a backslash stands for a character. -/
theorem stringRest?_letter {letter c : Char} (hcode : letter ≠ 'u')
    (hletter : unescape? letter = some c) (rest : Text) :
    stringRest? ('\\' :: letter :: rest) = withCharacter c (stringRest? rest) := by
  rw [stringRest?.eq_3 _ _ (by rintro a b c d rest rfl; exact absurd rfl hcode), hletter]
  cases stringRest? rest <;> rfl

/-- A control character is written by its code. -/
theorem stringRest?_control {code : Nat} (hcode : code < 0x20) (rest : Text) :
    stringRest? ('\\' :: 'u' :: '0' :: '0' :: Nat.digitChar (code / 16) ::
        Nat.digitChar (code % 16) :: rest) =
      withCharacter (Char.ofNat code) (stringRest? rest) := by
  have hvalue : Text.hexValue? ['0', '0', Nat.digitChar (code / 16), Nat.digitChar (code % 16)] =
      some code := by
    revert code
    decide
  have hpiece : Piece.ofCode code = .character (Char.ofNat code) := if_neg (by omega)
  rw [stringRest?, hvalue, withCharacter, ← hpiece]
  cases stringRest? rest <;> rfl

/-- Any other character stands for itself. -/
theorem stringRest?_plain {c : Char} (hquote : c ≠ '"') (hmark : c ≠ '\\')
    (hcontrol : ¬ c.toNat < 0x20) (rest : Text) :
    stringRest? (c :: rest) = withCharacter c (stringRest? rest) := by
  rw [stringRest?.eq_4 c rest hquote (fun _ _ _ _ _ heq ↦ absurd heq hmark)
    (fun _ _ heq ↦ absurd heq hmark), if_neg hcontrol]
  cases stringRest? rest <;> rfl

/-- A character is read back from the way in which it is written. -/
theorem stringRest?_escape (c : Char) (rest : Text) :
    stringRest? (escape c ++ rest) = withCharacter c (stringRest? rest) := by
  unfold escape
  split
  case h_8 hquote hmark _ _ _ _ _ =>
    split
    · next hcontrol =>
      have hread := stringRest?_control hcontrol rest
      rwa [Char.ofNat_toNat] at hread
    · next hcontrol => exact stringRest?_plain hquote hmark hcontrol rest
  all_goals exact stringRest?_letter (by decide) rfl rest

/-- The characters of a string are read back up to its end. -/
theorem stringRest?_flatMap_escape (text rest : Text) :
    stringRest? (text.flatMap escape ++ '"' :: rest) = some (characters text, rest) := by
  induction text with
  | nil => exact stringRest?.eq_1 rest
  | cons c text ih =>
    rw [List.flatMap_cons, List.append_assoc, stringRest?_escape, ih]
    rfl

/-- A written string is read back from the beginning of a text. -/
theorem token?_quote (text rest : Text) :
    token? (quote text ++ rest) = some (.string (characters text), rest) := by
  have hquoted : quote text ++ rest = '"' :: (text.flatMap escape ++ '"' :: rest) := by
    simp [quote]
  rw [hquoted, token?, stringRest?_flatMap_escape]
  rfl

end SocketMetrics.Json
