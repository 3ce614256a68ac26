import SocketMetrics.Text.Basic
/-!
Failures of reading and writing. A fault is known by its text only; those of the operating system
that can arise here are named.
-/

set_option autoImplicit false
set_option relaxedAutoImplicit false

namespace SocketMetrics

/-- A failed operation on a file or stream. -/
structure Fault where
  message : Text
deriving DecidableEq, Repr

namespace Fault

/-- A fault of the operating system, by its description and its number. -/
def ofSystem (description : Text) (number : Text) : Fault :=
  ⟨description ++ " (os error ".toList ++ number ++ [')']⟩

/-- The fault of opening a file that does not exist. -/
def noSuchFile : Fault :=
  ⟨"No such file or directory (os error 2)".toList⟩

/-- The fault of a path that leads through something other than a directory. -/
def notADirectory : Fault :=
  ⟨"Not a directory (os error 20)".toList⟩

/-- The fault of reading a directory as a file. -/
def isADirectory : Fault :=
  ⟨"Is a directory (os error 21)".toList⟩

/-- The fault of a path with too many bytes, in all or in one name. -/
def nameTooLong : Fault :=
  ⟨"File name too long (os error 36)".toList⟩

/-- The fault of writing to a full device. -/
def noSpace : Fault :=
  ⟨"No space left on device (os error 28)".toList⟩

/-- The fault of a name that holds the null character. -/
def nulInName : Fault :=
  ⟨"file name contained an unexpected NUL byte".toList⟩

/-- The fault of content that is not valid UTF-8. -/
def invalidUtf8 : Fault :=
  ⟨"stream did not contain valid UTF-8".toList⟩

end Fault

end SocketMetrics
