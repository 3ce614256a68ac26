import SocketMetrics.Sockstat.Basic
/-!
The written form of the socket allocation summary, in both directions. `write` lays the numerals
out in lines; `split?` takes a summary off the beginning of a text and returns its numerals with
what follows, and `read` turns them into counters. The number of sockets in use that heads the
summary is not part of a record, so that it is written and skipped but never checked.
-/

set_option autoImplicit false
set_option relaxedAutoImplicit false

namespace SocketMetrics.Sockstat

open Number

/-- The summary that shows the given numerals, with `used` as the number of sockets in use. -/
def write (used : Text) (numerals : Fields Text) : Text :=
  "sockets: used ".toList ++ used
    ++ "\nTCP: inuse ".toList ++ numerals.tcpInUse
    ++ " orphan ".toList ++ numerals.tcpOrphans
    ++ " tw ".toList ++ numerals.tcpTimeWait
    ++ " alloc ".toList ++ numerals.tcpAllocated
    ++ " mem ".toList ++ numerals.tcpPages
    ++ "\nUDP: inuse ".toList ++ numerals.udpInUse
    ++ (match numerals.udpPages with
      | some pages => " mem ".toList ++ pages
      | none => [])
    ++ "\n".toList
    ++ (match numerals.udpliteInUse with
      | some inUse => "UDPLITE: inuse ".toList ++ inUse ++ "\n".toList
      | none => [])
    ++ "RAW: inuse ".toList ++ numerals.rawInUse
    ++ "\nFRAG: inuse ".toList ++ numerals.fragmentQueues
    ++ " memory ".toList ++ numerals.fragmentMemory
    ++ "\n".toList

/-- A numeral behind the given words, with what follows the numeral. -/
def numeralAfter? (words : String) (text : Text) : Option (Text × Text) := do
  let (numeral, rest) := spanDigits (← Text.after? words.toList text)
  if numeral.isEmpty then none else some (numeral, rest)

/-- A part of the summary that may be missing: whether it is there is decided by its first words,
and once it is there it has to be complete. -/
def optionalNumeral? (words ending : String) (text : Text) : Option (Option Text × Text) :=
  match Text.after? words.toList text with
  | none => some (none, text)
  | some _ => do
    let (numeral, rest) ← numeralAfter? words text
    some (some numeral, ← Text.after? ending.toList rest)

/-- Takes a summary off the beginning of a text: its numerals, and what follows it. -/
def split? (text : Text) : Option (Fields Text × Text) := do
  let (_, text) ← numeralAfter? "sockets: used " text
  let (tcpInUse, text) ← numeralAfter? "\nTCP: inuse " text
  let (tcpOrphans, text) ← numeralAfter? " orphan " text
  let (tcpTimeWait, text) ← numeralAfter? " tw " text
  let (tcpAllocated, text) ← numeralAfter? " alloc " text
  let (tcpPages, text) ← numeralAfter? " mem " text
  let (udpInUse, text) ← numeralAfter? "\nUDP: inuse " text
  let (udpPages, text) ← optionalNumeral? " mem " "" text
  let text ← Text.after? ['\n'] text
  let (udpliteInUse, text) ← optionalNumeral? "UDPLITE: inuse " "\n" text
  let (rawInUse, text) ← numeralAfter? "RAW: inuse " text
  let (fragmentQueues, text) ← numeralAfter? "\nFRAG: inuse " text
  let (fragmentMemory, text) ← numeralAfter? " memory " text
  let text ← Text.after? ['\n'] text
  return ({
    tcpInUse, tcpOrphans, tcpTimeWait, tcpAllocated, tcpPages, udpInUse, udpPages, udpliteInUse,
    rawInUse, fragmentQueues, fragmentMemory }, text)

/-- Reads the summary at the beginning of a text; what follows it is ignored. -/
def read (content : Text) : Except ReadError Record :=
  match split? content with
  | none => throw (.grammar content)
  | some (numerals, _) =>
    numerals.traverse fun field numeral ↦
      match toCount? (digitsValue numeral) with
      | some count => pure count
      | none => throw (.outOfRange field content)

end SocketMetrics.Sockstat
