import SocketMetrics.Text.Basic
/-!
Log records. A record is a message with a level; which records are shown is up to the threshold of
the log. `ofName?` finds a threshold by its exact name, and `ofNameInAnyCase?` by its name in any
mixture of upper and lower case.
-/

set_option autoImplicit false
set_option relaxedAutoImplicit false

namespace SocketMetrics.Log

/-- The weight of a record. -/
inductive Level where
  | debug
  | info
  | warn
  | error
deriving DecidableEq, Repr

/-- The name of a level at the head of a line. -/
def Level.name : Level → Text
  | debug => "DEBUG".toList
  | info => "INFO".toList
  | warn => "WARN".toList
  | error => "ERROR".toList

/-- One message of the log. -/
structure Record where
  level : Level
  message : Text
deriving DecidableEq, Repr

/-- The record on one line. -/
def Record.line (record : Record) : Text :=
  record.level.name ++ ' ' :: record.message

/-- The least weight that is shown. -/
inductive Threshold where
  | off
  | error
  | warn
  | info
  | debug
  | trace
deriving DecidableEq, Repr

namespace Threshold

/-- All thresholds, from the fewest shown records to the most. -/
def all : List Threshold :=
  [off, error, warn, info, debug, trace]

def name : Threshold → Text
  | off => "off".toList
  | error => "error".toList
  | warn => "warn".toList
  | info => "info".toList
  | debug => "debug".toList
  | trace => "trace".toList

/-- The name of a threshold in messages about the log itself. -/
def title (threshold : Threshold) : Text :=
  match threshold.name with
  | [] => []
  | c :: rest => c.toUpper :: rest

/-- The threshold of the given name. -/
def ofName? (name : Text) : Option Threshold :=
  all.find? fun threshold ↦ threshold.name == name

/-- The threshold of the given name, whose letters may be of either case. -/
def ofNameInAnyCase? (name : Text) : Option Threshold :=
  ofName? (name.map Char.toLower)

/-- Whether records of a level are shown. -/
def shows : Threshold → Level → Bool
  | off, _ => false
  | error, level => level == .error
  | warn, level => level == .error || level == .warn
  | info, level => level != .debug
  | debug, _ | trace, _ => true

theorem ofName?_name (threshold : Threshold) : ofName? threshold.name = some threshold := by
  cases threshold <;> rfl

end Threshold

end SocketMetrics.Log
