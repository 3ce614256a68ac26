import SocketMetrics.Proofs.Netstat.Metrics
import SocketMetrics.Proofs.Number.Count
import SocketMetrics.Proofs.Text.Delimited
import SocketMetrics.Sockstat.Basic
/-!
# Messages tell everything

The message for an unreadable summary, for an unreadable table or value, and for a line that was
passed over each determine what they are about, down to every character of the content that they
show (`messages_injective`). Read from the left, a quoted text and a numeral each tell where they
end (`Text.selfDelimiting_quote`, `Number.decimal_append_inj`). What stands in a message without
quotes, the name of a field or of a counter, is found from the right: it ends where the last quoted
text begins (`Text.eq_of_append_quote_eq`), so that not even white space in the name of a counter is
in the way.
-/

set_option autoImplicit false
set_option relaxedAutoImplicit false

namespace SocketMetrics

open Number Text

/-! ### The socket allocation summary -/

namespace Sockstat

theorem Field.name_injective : Function.Injective Field.name := by
  intro first second heq
  cases first <;> cases second <;> first | rfl | exact absurd heq (by decide)

/-- The message for an unreadable summary tells the cause, the field and the content. -/
theorem ReadError.message_injective : Function.Injective ReadError.message := by
  have hcauses (field : Field) (content other : Text) :
      (grammar content).message ≠ (outOfRange field other).message := by
    intro heq
    have hfirst : 'C' = 'S' := (List.cons.inj heq).1
    exact absurd hfirst (by decide)
  intro first second heq
  cases first with
  | grammar content =>
    cases second with
    | grammar other => rw [quote_injective (List.append_cancel_left heq)]
    | outOfRange field other => exact absurd heq (hcauses _ _ _)
  | outOfRange field content =>
    cases second with
    | grammar other => exact absurd heq.symm (hcauses _ _ _)
    | outOfRange otherField other =>
      obtain ⟨hlead, rfl⟩ := eq_of_append_quote_eq (by decide) heq
      rw [Field.name_injective (List.append_cancel_left hlead)]

end Sockstat

/-! ### The protocol counter table -/

namespace Netstat

/-- How a message about the shape of a section begins. -/
def heading (name : Text) (count : ℕ) : Text :=
  "Section ".toList ++ name.quote ++ " has ".toList ++ decimal count

/-- The name of the section and the number can be read off the beginning of a message about its
shape. -/
theorem heading_append_inj {first second : Text} {count number : ℕ} {rest more : Text}
    (hrest : rest.head? = some ' ') (hmore : more.head? = some ' ')
    (heq : heading first count ++ rest = heading second number ++ more) :
    first = second ∧ count = number ∧ rest = more := by
  unfold heading at heq
  simp only [List.append_assoc, List.append_cancel_left_eq] at heq
  obtain ⟨rfl, hbehind⟩ := selfDelimiting_quote heq
  obtain ⟨rfl, rfl⟩ := decimal_append_inj (by simp [hrest]) (by simp [hmore])
    (List.append_cancel_left hbehind)
  exact ⟨rfl, rfl, rfl⟩

namespace TableError

theorem message_lineCount (of : Section) (lines : ℕ) (content : Text) :
    (lineCount of lines content).message = heading of.name lines ++
      (" line(s) in /proc/net/netstat, expected 2 (file=".toList ++ (content.quote ++ [')'])) := by
  unfold message heading
  rw [← List.append_assoc, ← List.append_assoc]

theorem message_columnMismatch (of : Section) (names values : ℕ) (content : Text) :
    (columnMismatch of names values content).message = heading of.name names ++
      (" counter names but ".toList ++ (decimal values ++
        (" values (file=".toList ++ (content.quote ++ [')'])))) := by
  unfold message heading
  rw [← List.append_assoc, ← List.append_assoc, ← List.append_assoc, ← List.append_assoc]

/-- The two messages about the shape of a section differ behind the number. -/
theorem message_lineCount_ne_columnMismatch {of other : Section} {lines names values : ℕ}
    {content file : Text} :
    (lineCount of lines content).message ≠ (columnMismatch other names values file).message := by
  intro heq
  rw [message_lineCount, message_columnMismatch] at heq
  have hbehind := (heading_append_inj rfl rfl heq).2.2
  have hword : 'l' = 'c' := (List.cons.inj (List.cons.inj hbehind).2).1
  exact absurd hword (by decide)

/-- A message about a value does not begin like one about the shape of a section. -/
theorem head?_message (error : TableError) :
    error.message.head? = some (match error with
      | invalidValue _ _ _ => 'C'
      | _ => 'S') := by
  cases error with
  | lineCount of lines content => rfl
  | columnMismatch of names values content => rfl
  | invalidValue of counter value => rfl

/-- The message for an unreadable table or value tells the cause, the section, and the numbers and
the content, or the counter and its value. -/
theorem message_injective : Function.Injective message := by
  intro first second heq
  have hhead := congrArg List.head? heq
  rw [head?_message, head?_message, Option.some.injEq] at hhead
  cases first with
  | lineCount of lines content =>
    cases second with
    | lineCount other number file =>
      rw [message_lineCount, message_lineCount] at heq
      obtain ⟨hnames, rfl, hrest⟩ := heading_append_inj rfl rfl heq
      obtain ⟨rfl, -⟩ := selfDelimiting_quote (List.append_cancel_left hrest)
      rw [name_injective hnames]
    | columnMismatch => exact absurd heq message_lineCount_ne_columnMismatch
    | invalidValue => simp at hhead
  | columnMismatch of names values content =>
    cases second with
    | lineCount => exact absurd heq.symm message_lineCount_ne_columnMismatch
    | columnMismatch other columns cells file =>
      rw [message_columnMismatch, message_columnMismatch] at heq
      obtain ⟨hnames, rfl, hrest⟩ := heading_append_inj rfl rfl heq
      obtain ⟨rfl, hbehind⟩ :=
        decimal_append_inj (by simp) (by simp) (List.append_cancel_left hrest)
      obtain ⟨rfl, -⟩ := selfDelimiting_quote (List.append_cancel_left hbehind)
      rw [name_injective hnames]
    | invalidValue => simp at hhead
  | invalidValue of counter value =>
    cases second with
    | lineCount => simp at hhead
    | columnMismatch => simp at hhead
    | invalidValue other name written =>
      -- from the right, for the name of the counter may hold anything
      obtain ⟨hfront, rfl⟩ := eq_of_append_quote_eq (by decide) heq
      obtain ⟨hlead, hnames⟩ := eq_of_append_quote_eq (by decide) hfront
      rw [List.append_cancel_left hlead, name_injective hnames]

end TableError

/-- The message for a line that was passed over tells its words and the content. -/
theorem Warning.message_injective : Function.Injective Warning.message := by
  rintro ⟨words, content⟩ ⟨others, other⟩ heq
  unfold Warning.message at heq
  simp only [List.append_assoc, List.append_cancel_left_eq] at heq
  obtain ⟨rfl, hbehind⟩ := selfDelimiting_quoteList heq
  obtain ⟨rfl, -⟩ := selfDelimiting_quote (List.append_cancel_left hbehind)
  rfl

end Netstat

/-- No message that a pass leaves about a source loses anything: causes with the same message are
the same. -/
theorem Pass.messages_injective :
    Function.Injective Sockstat.ReadError.message ∧
      Function.Injective Netstat.TableError.message ∧
      Function.Injective Netstat.Warning.message :=
  ⟨Sockstat.ReadError.message_injective, Netstat.TableError.message_injective,
    Netstat.Warning.message_injective⟩

end SocketMetrics
