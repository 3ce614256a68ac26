import SocketMetrics.Json.Value
import SocketMetrics.Proofs.Json.Scaling
import SocketMetrics.Proofs.Json.Strings
/-!
# Objects that were written are read back

A setting is written as a single token, whose value can be taken for what was written
(`Restores`): a text for the same text, a counter for the same counter, a number that can be waited
for still for a number, and a missing setting for none. A `Member` is a setting under a name with
the value that is read for it. Settings that are the entries of members are read back as what the
values of the members can be taken for (`candidates?_write`).
-/

set_option autoImplicit false
set_option relaxedAutoImplicit false

namespace SocketMetrics.Json

open Number

/-! ### Values that are single tokens -/

/-- What is read from the text of a setting: a value that consists of a single token. -/
inductive Restores : Setting → Token → Value → Prop where
  | absent : Restores .absent .null .null
  | number {x : Binary64} {literal : NumberLiteral} (hplain : literal.IsPlain)
      (htext : numberNotation.write x = literal.text) :
      Restores (.number x) (.number literal) (.number literal)
  | count (n : UInt64) :
      Restores (.count n) (.number (countLiteral n.toNat)) (.number (countLiteral n.toNat))
  | text (text : Text) :
      Restores (.text text) (.string (characters text)) (.string (characters text))

section Restored

variable {setting : Setting} {token : Token} {value : Value}

/-- The token is cut off the text of the setting. -/
theorem Restores.token?_append (hrestores : Restores setting token value) {rest : Text}
    (hrest : EndsNumber rest) : token? (valueText setting ++ rest) = some (token, rest) := by
  cases hrestores with
  | absent => rfl
  | number hplain htext =>
    rw [valueText, htext]
    exact token?_text hplain hrest
  | count n => exact token?_decimal n.toNat hrest
  | text text => exact token?_quote text rest

theorem Restores.valueText_ne_nil (hrestores : Restores setting token value) :
    valueText setting ≠ [] := by
  intro hnil
  have hend : EndsNumber [] := fun _ hnone ↦ absurd hnone (Option.not_mem_none _)
  have htoken := hrestores.token?_append hend
  rw [hnil] at htoken
  cases htoken

/-- The value is read from its token. -/
theorem Restores.value?_cons (hrestores : Restores setting token value) (fuel : ℕ)
    (rest : List Token) : value? (fuel + 1) (token :: rest) = some (value, rest) := by
  cases hrestores <;> rfl

end Restored

/-! ### Cutting a text into tokens -/

/-- Spaces in front of a token are passed over. -/
theorem tokens?_space {c : Char} (hspace : isSpace c = true) (rest : Text) :
    tokens? (c :: rest) = tokens? rest := by
  rw [tokens?, if_pos hspace]

/-- Nothing but spaces is no token. -/
theorem tokens?_spaces {spaces : Text} (hspaces : ∀ c ∈ spaces, isSpace c = true) :
    tokens? spaces = some [] := by
  induction spaces with
  | nil => rw [tokens?]
  | cons c spaces ih =>
    rw [List.forall_mem_cons] at hspaces
    rw [tokens?_space hspaces.1, ih hspaces.2]

/-- No token begins with a space. -/
theorem token?_space {c : Char} (hspace : isSpace c = true) (rest : Text) :
    token? (c :: rest) = none := by
  simp only [isSpace, Bool.or_eq_true, beq_iff_eq] at hspace
  obtain ((rfl | rfl) | rfl) | rfl := hspace
  all_goals rfl

/-- A token is cut off with what it consists of. -/
theorem tokens?_append {text rest : Text} {token : Token} (hsome : text ≠ [])
    (htoken : token? (text ++ rest) = some (token, rest)) :
    tokens? (text ++ rest) = (tokens? rest).map (token :: ·) := by
  obtain ⟨c, others, rfl⟩ := List.exists_cons_of_ne_nil hsome
  have hspace : ¬ isSpace c = true := by
    intro hspace
    rw [List.cons_append, token?_space hspace] at htoken
    cases htoken
  rw [List.cons_append] at htoken ⊢
  rw [tokens?, if_neg hspace, htoken]
  exact if_pos (by rw [List.length_append]; exact Nat.le_add_left _ _)

/-- A character that is a token for itself is cut off. -/
theorem tokens?_mark {c : Char} {token : Token} {rest : Text}
    (htoken : token? (c :: rest) = some (token, rest)) :
    tokens? (c :: rest) = (tokens? rest).map (token :: ·) :=
  tokens?_append (List.cons_ne_nil c []) htoken

theorem quote_ne_nil (text : Text) : quote text ≠ [] :=
  List.append_ne_nil_of_left_ne_nil (List.cons_ne_nil _ _) _

/-! ### Members -/

/-- A setting under a name, with what is read from its text. -/
structure Member where
  name : Text
  setting : Setting
  token : Token
  value : Value
  restores : Restores setting token value

namespace Member

/-- The member as it is written. -/
def text (member : Member) : Text :=
  memberText member.name member.setting

/-- The tokens of the member. -/
def tokens (member : Member) : List Token :=
  [.string (characters member.name), .colon, member.token]

/-- The member as it is read. -/
def read (member : Member) : List Piece × Value :=
  (characters member.name, member.value)

/-- What the value of the member can be taken for. -/
def candidate (member : Member) : Text × Candidate :=
  (member.name, member.value.candidate)

/-- The tokens of a member are cut off. -/
theorem tokens?_append (member : Member) {rest : Text} (hrest : EndsNumber rest) :
    tokens? (member.text ++ rest) = (tokens? rest).map (member.tokens ++ ·) := by
  have htext : member.text ++ rest = '\n' :: ' ' :: ' ' ::
      (quote member.name ++ (':' :: ' ' :: (valueText member.setting ++ rest))) := by
    simp [text, memberText, List.append_assoc]
  rw [htext, tokens?_space (by decide), tokens?_space (by decide), tokens?_space (by decide),
    Json.tokens?_append (quote_ne_nil _) (token?_quote member.name _), tokens?_mark rfl,
    tokens?_space (by decide),
    Json.tokens?_append member.restores.valueText_ne_nil (member.restores.token?_append hrest)]
  cases tokens? rest <;> rfl

/-- The tokens of an object behind its beginning. -/
def objectTokens (members : List Member) : List Token :=
  [Token.comma].intercalate (members.map tokens) ++ [.closeObject]

/-- Some members and the end of the object are cut into their tokens. -/
theorem tokens?_intercalate {members : List Member} (hsome : members ≠ []) {spaces : Text}
    (hspaces : ∀ c ∈ spaces, isSpace c = true) :
    tokens? ([','].intercalate (members.map text) ++ '\n' :: '}' :: spaces) =
      some (objectTokens members) := by
  induction members with
  | nil => exact absurd rfl hsome
  | cons member members ih =>
    cases members with
    | nil =>
      have hend : EndsNumber ('\n' :: '}' :: spaces) := by
        rintro c ⟨⟩
        decide
      have hclose : tokens? ('\n' :: '}' :: spaces) = some [.closeObject] := by
        rw [tokens?_space (by decide), tokens?_mark rfl, tokens?_spaces hspaces]
        rfl
      simp only [List.map_cons, List.map_nil, List.intercalate_singleton, objectTokens]
      rw [member.tokens?_append hend, hclose]
      rfl
    | cons next others =>
      have hcomma : EndsNumber
          (',' :: ([','].intercalate ((next :: others).map text) ++ '\n' :: '}' :: spaces)) := by
        rintro c ⟨⟩
        decide
      have hread := member.tokens?_append hcomma
      rw [tokens?_mark rfl, ih (List.cons_ne_nil _ _)] at hread
      simp only [List.map_cons, List.intercalate_cons_cons, List.append_assoc, List.cons_append,
        List.nil_append, objectTokens] at hread ⊢
      rw [hread]
      rfl

/-- There are at least as many tokens as members. -/
theorem length_le_objectTokens (members : List Member) :
    members.length ≤ (objectTokens members).length := by
  induction members with
  | nil => exact Nat.zero_le _
  | cons member members ih =>
    cases members with
    | nil => exact Nat.le_add_left 1 3
    | cons next others =>
      simp only [objectTokens, List.map_cons, List.intercalate_cons_cons, List.length_append,
        List.length_cons, List.length_nil, tokens] at ih ⊢
      omega

/-- The members are read from the tokens of their object, given as many steps as there are members
and one more. -/
theorem members?_objectTokens {members : List Member} (hsome : members ≠ []) {fuel : ℕ}
    (hfuel : members.length < fuel) :
    members? fuel (objectTokens members) = some (members.map read, []) := by
  induction members generalizing fuel with
  | nil => exact absurd rfl hsome
  | cons member members ih =>
    rw [List.length_cons] at hfuel
    obtain ⟨fuel, rfl⟩ : ∃ steps, fuel = steps + 2 := ⟨fuel - 2, by omega⟩
    have hvalue := member.restores.value?_cons fuel
    cases members with
    | nil =>
      have htokens : objectTokens [member] =
          [.string (characters member.name), .colon, member.token, .closeObject] := rfl
      rw [htokens, members?]
      simp only [hvalue, Option.bind_eq_bind, Option.bind_some]
      rfl
    | cons next others =>
      have htokens : objectTokens (member :: next :: others) =
          .string (characters member.name) :: .colon :: member.token :: .comma ::
            objectTokens (next :: others) := by
        simp [objectTokens, tokens, List.intercalate_cons_cons]
      rw [htokens, members?]
      simp only [hvalue, Option.bind_eq_bind, Option.bind_some,
        ih (List.cons_ne_nil _ _) (Nat.lt_of_succ_lt_succ hfuel)]
      rfl

/-- What is read from members are the candidates under their names. -/
theorem mapM_read (members : List Member) :
    (members.map read).mapM (fun (key, value) ↦
      (joined? key).map fun name ↦ (name, value.candidate)) =
        some (members.map candidate) := by
  induction members with
  | nil => rfl
  | cons member members ih =>
    rw [List.map_cons, List.mapM_cons, ih]
    simp only [read, joined?_characters]
    rfl

end Member

/-- The settings of members, as they are written. -/
def entries (members : List Member) : Settings :=
  members.map fun member ↦ (member.name, member.setting)

section Written

variable {members : List Member} (hsome : members ≠ []) {spaces : Text}
  (hspaces : ∀ c ∈ spaces, isSpace c = true)
include hsome hspaces

/-- The text of some members is read as the object of the members, also with spaces behind it. -/
theorem ofText?_write :
    Value.ofText? (write (entries members) ++ spaces) =
      some (.object (members.map Member.read)) := by
  have htext : write (entries members) ++ spaces =
      '{' :: ([','].intercalate (members.map Member.text) ++ '\n' :: '}' :: spaces) := by
    rw [write, entries, List.map_map, List.append_assoc]
    rfl
  have htokens : tokens? (write (entries members) ++ spaces) =
      some (.openObject :: Member.objectTokens members) := by
    rw [htext, tokens?_mark rfl, Member.tokens?_intercalate hsome hspaces, Option.map_some]
  have hfuel : members.length < 2 * (Token.openObject :: Member.objectTokens members).length := by
    have hlength := Member.length_le_objectTokens members
    rw [List.length_cons]
    omega
  have hmembers := Member.members?_objectTokens hsome hfuel
  have hvalue : value? (2 * (Token.openObject :: Member.objectTokens members).length + 1)
      (.openObject :: Member.objectTokens members) =
        some (.object (members.map Member.read), []) := by
    rw [value?, hmembers]
    · rfl
    · -- an object with a member does not end at once
      intro rest hclose
      obtain ⟨member, others, rfl⟩ := List.exists_cons_of_ne_nil hsome
      cases others <;> cases hclose
  rw [Value.ofText?, htokens]
  simp only [Option.bind_eq_bind, Option.bind_some, hvalue]

/-- Settings that are written are read back as what their values can be taken for. -/
theorem candidates?_write (names : List Text) :
    candidates? names (write (entries members) ++ spaces) =
      some (members.map Member.candidate) := by
  rw [candidates?, ofText?_write hsome hspaces]
  exact Member.mapM_read members

end Written

end SocketMetrics.Json
