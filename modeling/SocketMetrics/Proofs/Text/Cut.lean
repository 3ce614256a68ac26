import SocketMetrics.Text.Blank
/-!
# Texts cut in two

Taking a text apart and cutting it commute, up to the piece that the cut goes through:
`pieces_append` and `lines_append` join the last piece of the front with the first of the rest. A
cut behind a mark goes through no piece (`pieces_append_mark`). For words there are two cases
(`words_append`): the words of the front are words of the whole, or the cut goes through the last of
them.
-/

set_option autoImplicit false
set_option relaxedAutoImplicit false

namespace SocketMetrics.Text

/-- The cut goes through one piece, and the others stay. -/
theorem pieces_append (isMark : Char → Bool) (front rest : Text) :
    ∃ before stub head later, front.pieces isMark = before ++ [stub] ∧
      rest.pieces isMark = head :: later ∧
      pieces isMark (front ++ rest) = before ++ (stub ++ head) :: later := by
  induction front with
  | nil =>
    obtain ⟨head, later, hpieces⟩ := List.exists_cons_of_ne_nil (pieces_ne_nil isMark rest)
    exact ⟨[], [], head, later, rfl, hpieces, hpieces⟩
  | cons c front ih =>
    obtain ⟨before, stub, head, later, hfront, hrest, hwhole⟩ := ih
    by_cases hmark : isMark c = true
    · refine ⟨[] :: before, stub, head, later, ?_, hrest, ?_⟩
      · simp [pieces, hmark, hfront]
      · simp [pieces, hmark, hwhole]
    · cases before with
      | nil =>
        refine ⟨[], c :: stub, head, later, ?_, hrest, ?_⟩
        · simp [pieces, hmark, hfront]
        · simp [pieces, hmark, hwhole]
      | cons piece before =>
        refine ⟨(c :: piece) :: before, stub, head, later, ?_, hrest, ?_⟩
        · simp [pieces, hmark, hfront]
        · simp [pieces, hmark, hwhole]

/-- A text without a mark is one piece. -/
theorem pieces_of_forall {isMark : Char → Bool} {text : Text}
    (htext : ∀ c ∈ text, isMark c = false) : text.pieces isMark = [text] := by
  induction text with
  | nil => rfl
  | cons c rest ih =>
    rw [List.forall_mem_cons] at htext
    simp [pieces, htext.1, ih htext.2]

/-- A text in which the mark does not occur is one piece. -/
theorem pieces_of_not_mem {mark : Char} {text : Text} (htext : mark ∉ text) :
    text.pieces (· == mark) = [text] :=
  pieces_of_forall fun _ hc ↦ beq_false_of_ne fun heq ↦ htext (heq ▸ hc)

/-- A cut behind a mark goes through no piece. -/
theorem pieces_append_mark (mark : Char) (front rest : Text) :
    pieces (· == mark) (front ++ mark :: rest) =
      front.pieces (· == mark) ++ rest.pieces (· == mark) := by
  obtain ⟨before, stub, head, later, hfront, hrest, hwhole⟩ :=
    pieces_append (· == mark) front (mark :: rest)
  have hbehind : pieces (· == mark) (mark :: rest) = [] :: rest.pieces (· == mark) := by
    simp [pieces]
  rw [hbehind, List.cons.injEq] at hrest
  rw [hwhole, hfront, ← hrest.1, ← hrest.2, List.append_nil, List.append_assoc,
    List.singleton_append]

/-- What stands in front of the first mark is the first piece. -/
theorem pieces_append_of_not_mem {mark : Char} {front : Text} (hfront : mark ∉ front)
    (rest : Text) :
    pieces (· == mark) (front ++ mark :: rest) = front :: rest.pieces (· == mark) := by
  rw [pieces_append_mark, pieces_of_not_mem hfront, List.singleton_append]

/-- A text consists of its pieces with the mark between them. -/
theorem intercalate_pieces (mark : Char) (text : Text) :
    List.intercalate [mark] (text.pieces (· == mark)) = text := by
  induction text with
  | nil => rfl
  | cons c rest ih =>
    obtain ⟨piece, others, hpieces⟩ := List.exists_cons_of_ne_nil (pieces_ne_nil (· == mark) rest)
    rw [hpieces] at ih
    by_cases hmark : c = mark
    · simp [pieces, hmark, hpieces, ih, List.intercalate_cons_cons]
    · -- the character goes to the first piece of the rest
      have hfirst : pieces (· == mark) (c :: rest) = (c :: piece) :: others := by
        simp [pieces, hmark, hpieces]
      rw [hfirst, ← ih]
      cases others <;> simp [List.intercalate_cons_cons]

/-- A text can be put together from its pieces. -/
theorem pieces_injective (mark : Char) :
    Function.Injective fun text : Text ↦ text.pieces (· == mark) := by
  intro first second hpieces
  rw [← intercalate_pieces mark first, ← intercalate_pieces mark second]
  exact congrArg (List.intercalate [mark]) hpieces

/-- A text without a line feed is one line. -/
theorem lines_of_not_mem {text : Text} (htext : '\n' ∉ text) : text.lines = [text] :=
  pieces_of_not_mem htext

/-- The cut goes through one line. -/
theorem lines_append (front rest : Text) :
    ∃ before stub head later, front.lines = before ++ [stub] ∧ rest.lines = head :: later ∧
      lines (front ++ rest) = before ++ (stub ++ head) :: later :=
  pieces_append _ front rest

/-- A cut behind a line feed goes through no line. -/
theorem lines_append_lineFeed (front rest : Text) :
    lines (front ++ '\n' :: rest) = front.lines ++ rest.lines :=
  pieces_append_mark '\n' front rest

/-- The words in front of a cut are the first words of the whole text, unless the cut goes through
the last of them. -/
theorem words_append (front rest : Text) :
    (∃ others, words (front ++ rest) = front.words ++ others) ∨
      ∃ before cut more others, front.words = before ++ [cut] ∧
        words (front ++ rest) = before ++ (cut ++ more) :: others ∧ more ≠ [] := by
  obtain ⟨before, stub, head, later, hfront, -, hwhole⟩ := pieces_append isBlank front rest
  unfold words
  rw [hfront, hwhole]
  by_cases hstub : stub = []
  · left
    refine ⟨(head :: later).filter fun piece ↦ !piece.isEmpty, ?_⟩
    simp [hstub]
  · by_cases hhead : head = []
    · left
      refine ⟨later.filter fun piece ↦ !piece.isEmpty, ?_⟩
      simp [hstub, hhead]
    · right
      refine ⟨before.filter fun piece ↦ !piece.isEmpty, stub, head,
        later.filter fun piece ↦ !piece.isEmpty, ?_, ?_, hhead⟩
      · simp [hstub]
      · simp [hstub]

end SocketMetrics.Text
