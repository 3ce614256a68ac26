import SocketMetrics.Collector.Parent
import SocketMetrics.Collector.Turn
import SocketMetrics.Program.Run
import Std.Time.DateTime.Timestamp
/-!
The command line program. It looks at the file system, the environment, the clock and its parent,
and leaves all decisions to `Program.run`; of the collection that has no end it only takes the turns.
-/

set_option autoImplicit false
set_option relaxedAutoImplicit false

namespace SocketMetrics

open Channel Collector Files Number Program

/-- The number of an error of the operating system, which some calls report as its negative. -/
def errorNumber (code : UInt32) : Nat :=
  min code.toNat (UInt32.size - code.toNat)

/-- The fault with a number of the operating system, which describes some of them in words of its
own. -/
def faultOfNumber (number : Nat) (description : String) : Fault :=
  match number with
  | 20 => .notADirectory
  | 21 => .isADirectory
  | 28 => .noSpace
  | 36 => .nameTooLong
  | _ => .ofSystem description.toList (decimal number)

/-- The fault that an error of the operating system stands for. -/
def faultOf : IO.Error → Fault
  | .noFileOrDirectory _ _ _ => .noSuchFile
  | .alreadyExists _ code description | .interrupted _ code description
  | .invalidArgument _ code description
  | .permissionDenied _ code description | .resourceExhausted _ code description
  | .inappropriateType _ code description | .noSuchThing _ code description
  | .otherError code description | .resourceBusy code description
  | .resourceVanished code description | .unsupportedOperation code description
  | .hardwareFault code description | .unsatisfiedConstraints code description
  | .illegalOperation code description | .protocolError code description
  | .timeExpired code description => faultOfNumber (errorNumber code) description
  | .unexpectedEof => ⟨"unexpected end of file".toList⟩
  | .userError message => ⟨message.toList⟩

/-- Whether a path leads to anything now. -/
def leadsSomewhere (path : RawText) : IO Bool := do
  try
    let _ ← IO.FS.realPath (String.ofList path.display)
    return true
  catch _ => return false

/-- What stands at a path now. -/
def observe (path : RawText) : IO (Except Fault Node) := do
  if path.bytes.contains 0 then return .error .nulInName
  try
    let bytes ← IO.FS.readBinFile (String.ofList path.display)
    return .ok (.file bytes.toList)
  catch error =>
    let fault := faultOf error
    if fault = .isADirectory then return .ok .directory
    else if ← leadsSomewhere path then return .ok (.locked fault)
    else return .error fault

/-- What stands at some paths now. -/
def observeAll (paths : List RawText) : IO FileSystem := do
  let found ← paths.mapM fun path ↦ return (path, ← observe path)
  return .ofObservations found

/-- The seconds since the epoch. -/
def secondsNow : IO Int := do
  return (← Std.Time.Timestamp.now).toSecondsSinceUnixEpoch.val

/-- The number of the parent process. -/
def parentNow : IO (Option Text) := do
  match ← observe statusPath with
  | .ok (.file bytes) => return (Text.ofUtf8? bytes).bind parentNumber?
  | _ => return none

/-- Writes a text to a stream, and tells whether that worked. -/
def put (stream : IO.FS.Stream) (text : Text) : IO (Option Fault) := do
  try
    stream.putStr (String.ofList text)
    stream.flush
    return none
  catch error => return some (faultOf error)

/-- Writes those records to the standard error that a threshold lets through. -/
def putRecords (threshold : Log.Threshold) (records : List Log.Record) : IO Unit := do
  for record in records do
    if threshold.shows record.level then
      let _ ← put (← IO.getStderr) (record.line ++ ['\n'])

/-- Leaves behind what a process has to, as on a full device if the standard output takes
nothing. -/
def settle (outcomeOn : Stdout → Outcome) : IO UInt32 := do
  let working := outcomeOn .working
  let fault ← put (← IO.getStdout) working.stdout
  let outcome := if fault.isNone then working else outcomeOn .full
  putRecords .trace outcome.log
  let _ ← put (← IO.getStderr) outcome.stderr
  return UInt32.ofNat outcome.code

/-- Exits for a reason. -/
def leave (threshold : Log.Threshold) (reason : Termination) : IO UInt32 := do
  putRecords threshold [exitRecord reason.exitCode]
  return UInt32.ofNat reason.exitCode

/-- The sources as they are now. -/
def sourcesNow (paths : Startup.SourcePaths) : IO Sources := do
  let files ← observeAll [paths.sockstat, paths.netstat]
  let source (path : RawText) : Source :=
    match files.openAt path with
    | .ok source => source
    | .error fault => .constant ⟨[], none, some fault⟩
  return ⟨source paths.sockstat, source paths.netstat⟩

/-- Runs a pass over the sources as they are now, and writes what it gives. -/
def passNow (paths : Startup.SourcePaths) (collector : Collector) : IO Step := do
  let sources ← sourcesNow paths
  let seconds ← secondsNow
  let step := { collector with sources }.runOnce (fun _ ↦ seconds) .unbounded
  let outFault ← put (← IO.getStdout) step.streams.out.written
  let errFault ← put (← IO.getStderr) step.streams.err.written
  return match outFault <|> errFault with
    | none => step
    | some fault => { step with outcome := .error fault }

/-- The host of a collector, whose parent is alive as long as its number is that of the start. -/
def hostNow (threshold : Log.Threshold) (paths : Startup.SourcePaths) (parent : Option Text) :
    Host IO where
  ask := return (← parentNow) == parent
  sleep slice := IO.sleep (UInt32.ofNat (slice.nanoseconds / 1000000))
  pass := passNow paths
  log := putRecords threshold

/-- Takes turns until one of them ends. -/
partial def takeTurns (host : Host IO) (collector : Collector) (remaining : Duration) :
    IO (Except Fault Termination) := do
  match ← turn host collector remaining with
  | .goesOn collector remaining => takeTurns host collector remaining
  | .ends _ outcome => return outcome

/-- Opens a collector and runs it until its parent is gone. -/
def stayOn (files : FileSystem) (threshold : Log.Threshold) (resolved : Config.Resolved) :
    IO UInt32 := do
  let config := resolved.config
  let parent ← parentNow
  let opening := Collector.openAt files config.effectivePaths config.effectiveInterval
    config.effectivePageSize
  putRecords threshold
    (openingRecords threshold resolved.notices ++ parentRecords parent ++ opening.log)
  match opening.outcome with
  | .error reason => leave threshold reason
  | .ok collector =>
    let running := { collector with state := .running }
    putRecords threshold [running.startRecord]
    match ← takeTurns (hostNow threshold config.effectivePaths parent) running ⟨0⟩ with
    | .ok reason => leave threshold reason
    | .error fault =>
      let _ ← put (← IO.getStderr) ("Error: ".toList ++ fault.message ++ ['\n'])
      return UInt32.ofNat failure

/-- The paths that the program may look at. -/
def pathsOf (arguments : CommandLine.Arguments) (paths : Startup.SourcePaths) : List RawText :=
  arguments.config.toList ++ Config.usualPlaces ++ [paths.sockstat, paths.netstat]

/-- Runs the program with arguments. -/
def start (words : List RawText) (environment : Option Text) : IO UInt32 := do
  let seconds ← secondsNow
  let runWith (files : FileSystem) : IO UInt32 := settle fun stdout ↦
    Program.run { files, stdout, clock := fun _ ↦ seconds, watch := [], words, environment }
  match CommandLine.read words with
  | .error _ => runWith (.ofObservations [])
  | .ok arguments =>
    let files ← observeAll (pathsOf arguments .standard)
    match Config.resolve files arguments.overrides environment with
    | .error _ => runWith files
    | .ok resolved =>
      let files ← observeAll (pathsOf arguments resolved.config.effectivePaths)
      if staysOn arguments resolved.config then
        stayOn files (threshold arguments resolved.config) resolved
      else runWith files

end SocketMetrics

/-- Runs the program. -/
def main (words : List String) : IO UInt32 := do
  let environment ← IO.getEnv (String.ofList SocketMetrics.Config.intervalVariable)
  SocketMetrics.start (words.map fun word ↦ .ofText word.toList) (environment.map String.toList)
