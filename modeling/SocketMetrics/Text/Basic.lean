/-!
Text as a list of characters, and the few ways in which the readers of this library take it apart:
into pieces between marks, into lines, and behind a given beginning. `after?_eq_some_iff` and
`pieces_append_of_forall` say what the last two of them return.
-/

set_option autoImplicit false
set_option relaxedAutoImplicit false

namespace SocketMetrics

/-- Text is handled as the list of its characters. -/
abbrev Text := List Char

namespace Text

/-- The stretches of text between marks, empty ones included: one more than there are marks. -/
def pieces (isMark : Char → Bool) : Text → List Text
  | [] => [[]]
  | c :: rest =>
    if isMark c then [] :: pieces isMark rest
    else match pieces isMark rest with
      | [] => [[c]]
      | piece :: others => (c :: piece) :: others

/-- The lines of a text, without their line feeds. What stands behind the last line feed is a
line too, so a text that ends in one has an empty last line. -/
def lines (text : Text) : List Text :=
  text.pieces (· == '\n')

/-- What follows a given beginning, if the text has that beginning. -/
def after? : Text → Text → Option Text
  | [], text => some text
  | c :: lead, d :: text => if c = d then after? lead text else none
  | _ :: _, [] => none

/-- The number of bytes the text takes in UTF-8. -/
def byteCount (text : Text) : Nat :=
  text.foldl (fun count c ↦ count + c.utf8Size) 0

/-- The number of line feeds in the text. -/
def lineFeeds (text : Text) : Nat :=
  text.count '\n'

/-- The text a sequence of bytes encodes, if it is valid UTF-8. -/
def ofUtf8? (bytes : List UInt8) : Option Text :=
  (String.fromUTF8? ⟨bytes.toArray⟩).map String.toList

/-- The bytes of the text in UTF-8. -/
def toUtf8 (text : Text) : List UInt8 :=
  (String.ofList text).toUTF8.toList

@[simp] theorem after?_nil (text : Text) : after? [] text = some text := rfl

/-- What follows a beginning is the rest that completes it to the whole text. -/
theorem after?_eq_some_iff {lead text rest : Text} :
    lead.after? text = some rest ↔ text = lead ++ rest := by
  induction lead generalizing text with
  | nil => simp [after?, eq_comm]
  | cons c lead ih =>
    cases text with
    | nil => simp [after?]
    | cons d text =>
      by_cases h : c = d
      · subst h
        simp [after?, ih]
      · simp [after?, h, Ne.symm h]

theorem pieces_ne_nil (isMark : Char → Bool) (text : Text) : text.pieces isMark ≠ [] := by
  cases text with
  | nil => simp [pieces]
  | cons c rest =>
    by_cases h : isMark c
    · simp [pieces, h]
    · rw [pieces, if_neg h]
      split <;> simp

/-- A mark-free stretch in front of a mark is the first piece. -/
theorem pieces_append_of_forall {isMark : Char → Bool} {stretch rest : Text} {mark : Char}
    (hstretch : ∀ c ∈ stretch, isMark c = false) (hmark : isMark mark = true) :
    (stretch ++ mark :: rest).pieces isMark = stretch :: rest.pieces isMark := by
  induction stretch with
  | nil => simp [pieces, hmark]
  | cons c stretch ih =>
    have hc : isMark c = false := hstretch c (by simp)
    have htail := ih fun d hd ↦ hstretch d (by simp [hd])
    simp [pieces, hc, htail]

end Text

end SocketMetrics
