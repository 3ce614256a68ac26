import SocketMetrics.Text.Basic
import SocketMetrics.Text.CodePointRange
/-!
White space and the words between it. A character is blank when it has the Unicode property
White_Space, 25 characters in all; the words of a text are its longest stretches without a blank.
-/

set_option autoImplicit false
set_option relaxedAutoImplicit false

namespace SocketMetrics.Text

/-- The code points with the property White_Space. -/
def blankRanges : List CodePointRange :=
  [(0x09, 0x0d), (0x20, 0x20), (0x85, 0x85), (0xa0, 0xa0), (0x1680, 0x1680), (0x2000, 0x200a),
    (0x2028, 0x2029), (0x202f, 0x202f), (0x205f, 0x205f), (0x3000, 0x3000)]

/-- Whether a character is white space. -/
def isBlank (c : Char) : Bool :=
  CodePointRange.covers blankRanges c

/-- The longest stretches without a blank, in their order. -/
def words (text : Text) : List Text :=
  (text.pieces isBlank).filter fun piece ↦ !piece.isEmpty

/-- The text without the blanks at both of its ends. -/
def trim (text : Text) : Text :=
  ((text.dropWhile isBlank).reverse.dropWhile isBlank).reverse

end SocketMetrics.Text
