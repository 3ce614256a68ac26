import SocketMetrics.Channel.Sink
import SocketMetrics.Log
/-!
What a process leaves behind: its exit code, what it wrote to its two standard streams, and what it
logged. Log lines go to the standard error too, where they show time and place; they are kept apart
here. The process aborts when a line for the standard output cannot be printed.
-/

set_option autoImplicit false
set_option relaxedAutoImplicit false

namespace SocketMetrics.Program

open Channel

/-- The exit code of a process that did what it was asked for. -/
def success : Nat := 0

/-- The exit code of a process that failed. -/
def failure : Nat := 1

/-- The exit code of a process that was called in a wrong way. -/
def wrongUsage : Nat := 2

/-- The exit code of a process that aborted. -/
def aborted : Nat := 101

/-- What a process leaves behind. -/
structure Outcome where
  code : Nat
  stdout : Text
  stderr : Text
  log : List Log.Record
deriving DecidableEq, Repr

namespace Outcome

/-- A process that has told one line about its failure. -/
def ofComplaint (code : Nat) (line : Text) : Outcome :=
  ⟨code, [], line ++ ['\n'], []⟩

/-- The outcome behind what was logged before. -/
def after (log : List Log.Record) (outcome : Outcome) : Outcome :=
  { outcome with log := log ++ outcome.log }

/-- The outcome with only those records that a threshold lets through. -/
def shownBy (outcome : Outcome) (threshold : Log.Threshold) : Outcome :=
  { outcome with log := outcome.log.filter fun record ↦ threshold.shows record.level }

end Outcome

/-- A line for one of the standard streams. -/
inductive Said where
  | out (line : Text)
  | err (line : Text)
deriving DecidableEq, Repr

/-- The standard output. -/
inductive Stdout where
  | working
  /-- A device that has no room for a single byte. -/
  | full
deriving DecidableEq, Repr

namespace Stdout

/-- The standard output as a sink behind a buffer. -/
def sink : Stdout → Sink
  | working => .unbounded
  | full => .fullDevice

/-- What arrives of a text that was written through the buffer. -/
def arriving (stdout : Stdout) (text : Text) : Text :=
  match stdout with
  | working => text
  | full => []

end Stdout

/-- Prints lines in their order and exits with the given code, or aborts at the first line that
cannot be printed. -/
def speak (stdout : Stdout) (code : Nat) : List Said → Outcome
  | [] => ⟨code, [], [], []⟩
  | .out line :: rest =>
    match stdout with
    | .full => ⟨aborted, [], [], []⟩
    | .working =>
      let outcome := speak stdout code rest
      { outcome with stdout := line ++ '\n' :: outcome.stdout }
  | .err line :: rest =>
    let outcome := speak stdout code rest
    { outcome with stderr := line ++ '\n' :: outcome.stderr }

end SocketMetrics.Program
