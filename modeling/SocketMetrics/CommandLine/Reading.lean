import SocketMetrics.CommandLine.Usage
/-!
Reading the command line, word by word. A parameter takes its value from the same word or from the
next one, which must not look like an option. A value given by its own word is looked at only when
the next option comes up or the line ends, so that an unknown option behind it is told first. A
command ends the options of the program, and what stands behind it is read before a value in front
of it is looked at. A word may be any bytes: a path is taken as it stands, every other value has to
be a text, and a name that is no text is unknown.
-/

set_option autoImplicit false
set_option relaxedAutoImplicit false

namespace SocketMetrics.CommandLine

open Number

/-- What a word looks like. -/
inductive Word where
  /-- Two minus signs alone. -/
  | separator
  /-- An option by name, with the value behind an equals sign. -/
  | long (name : Text) (value : Option RawText)
  /-- An option by letter, with what follows the letter. -/
  | short (letter : Char) (rest : RawText)
  | plain (raw : RawText)
deriving DecidableEq, Repr

/-- What stands in front of the first equals sign, and what stands behind it if there is one. -/
def cutAtEquals (raw : RawText) : Text × Option RawText :=
  match raw.bytes.span (· != '='.toUInt8) with
  | (name, _ :: value) => (RawText.display ⟨name⟩, some ⟨value⟩)
  | (name, []) => (RawText.display ⟨name⟩, none)

/-- What a word looks like. -/
def Word.ofRaw (raw : RawText) : Word :=
  match raw.uncons? with
  | some ('-', rest) =>
    match rest.uncons? with
    | none => plain raw
    | some ('-', text) =>
      if text = .empty then separator else long (cutAtEquals text).1 (cutAtEquals text).2
    | some (letter, rest) => short letter rest
  | _ => plain raw

/-- The value of a parameter that is given by its letter, from what follows the letter. -/
def attachedValue (rest : RawText) : Option RawText :=
  match rest.uncons? with
  | none => none
  | some ('=', value) => some value
  | _ => some rest

/-- Takes up the value of a parameter. That it is given twice is told before it is looked at. -/
def Arguments.set (arguments : Arguments) (parameter : Parameter) (value : RawText) :
    Except Interruption Arguments := do
  let path : Except Interruption RawText :=
    if value = .empty then throw (.missingValue parameter) else pure value
  let text : Except Interruption Text := value.text?.elim (throw .notUnicode) pure
  let choice {α : Type} (found : Option α) : Except Interruption α :=
    found.elim (throw (.inadmissible parameter value.display)) pure
  match parameter with
  | .logLevel =>
    if arguments.logLevel.isSome then throw (.repeatedParameter parameter)
    return { arguments with logLevel := some (← choice (Log.Threshold.ofName? value.display)) }
  | .config =>
    if arguments.config.isSome then throw (.repeatedParameter parameter)
    return { arguments with config := some (← path) }
  | .interval =>
    if arguments.interval.isSome then throw (.repeatedParameter parameter)
    let literal ← text
    match Binary64.ofLiteral? literal with
    | some seconds => return { arguments with interval := some seconds }
    | none => throw (.malformed parameter literal)
  | .sockstatPath =>
    if arguments.sockstatPath.isSome then throw (.repeatedParameter parameter)
    return { arguments with sockstatPath := some (← path) }
  | .netstatPath =>
    if arguments.netstatPath.isSome then throw (.repeatedParameter parameter)
    return { arguments with netstatPath := some (← path) }
  | .user =>
    if arguments.user.isSome then throw (.repeatedParameter parameter)
    return { arguments with user := some (← text) }
  | .configFormat =>
    if arguments.configFormat.isSome then throw (.repeatedParameter parameter)
    return { arguments with configFormat := some (← choice (Config.Format.ofName? value.display)) }

/-- Takes up a flag. -/
def Arguments.raise (arguments : Arguments) : Flag → Except Interruption Arguments
  | .noConfig =>
    if arguments.noConfig then throw (.repeatedFlag .noConfig)
    else pure { arguments with noConfig := true }
  | .showConfig =>
    if arguments.showConfig then throw (.repeatedFlag .showConfig)
    else pure { arguments with showConfig := true }
  | .checkConfig =>
    if arguments.checkConfig then throw (.repeatedFlag .checkConfig)
    else pure { arguments with checkConfig := true }
  | .help => throw .help
  | .version => throw (.version none)

/-- A parameter whose value has not been taken up yet. -/
inductive Pending where
  | nothing
  /-- The next word is its value. -/
  | awaiting (parameter : Parameter)
  | given (parameter : Parameter) (value : RawText)
deriving DecidableEq, Repr

/-- How far a command line has been read. -/
structure Progress where
  arguments : Arguments
  pending : Pending
deriving DecidableEq, Repr

namespace Progress

/-- Takes up the value that is pending. -/
def settle (progress : Progress) : Except Interruption Arguments :=
  match progress.pending with
  | .nothing => pure progress.arguments
  | .awaiting parameter => throw (.missingValue parameter)
  | .given parameter value => progress.arguments.set parameter value

/-- Takes up a parameter, with its value if that is attached. -/
def takeParameter (progress : Progress) (parameter : Parameter) (value : Option RawText) :
    Except Interruption Progress := do
  let arguments ← progress.settle
  match value with
  | some value => return ⟨← arguments.set parameter value, .nothing⟩
  | none => return ⟨arguments, .awaiting parameter⟩

/-- Takes up a flag. -/
def takeFlag (progress : Progress) (flag : Flag) : Except Interruption Progress := do
  return ⟨← (← progress.settle).raise flag, .nothing⟩

/-- Takes up an option given by name. -/
def takeLong (progress : Progress) (name : Text) (value : Option RawText) :
    Except Interruption Progress :=
  match Parameter.ofName? name, Flag.ofName? name, value with
  | some parameter, _, _ => progress.takeParameter parameter value
  | none, some flag, some value => throw (.excessValue flag value.display)
  | none, some flag, none => progress.takeFlag flag
  | none, none, _ => throw (.unexpected ("--".toList ++ name))

/-- Takes up an option given by letter. -/
def takeShort (progress : Progress) (letter : Char) (rest : RawText) :
    Except Interruption Progress :=
  match Parameter.ofLetter? letter, Flag.ofLetter? letter with
  | some parameter, _ => progress.takeParameter parameter (attachedValue rest)
  | none, some flag => progress.takeFlag flag
  | none, none => throw (.unexpected ['-', letter])

end Progress

/-- The interruption by a word where no command can stand any more. -/
def misplaced (word : Text) : Interruption :=
  if (Command.ofName? word).isSome || word == helpCommand then .unexpected word
  else .unknownCommand word

/-- Reads the words behind a command, which has no options of its own. -/
def commandRest (command : Command) : List RawText → Except Interruption Unit
  | [] => pure ()
  | word :: rest =>
    let flagged (flag : Option Flag) : Interruption :=
      match flag with
      | some .help => .help
      | some .version => .version (some command)
      | _ => .unexpected word.display
    match Word.ofRaw word with
    | .separator => match rest with
      | [] => pure ()
      | extra :: _ => throw (.unexpected extra.display)
    | .long name none => throw (flagged (Flag.ofName? name))
    | .long name (some value) => match Flag.ofName? name with
      | some .help => throw (.excessValue .help value.display)
      | some .version => throw (.excessValue .version value.display)
      | _ => throw (.unexpected word.display)
    | .short letter _ => throw (flagged (Flag.ofLetter? letter))
    | .plain _ => throw (.unexpected word.display)

/-- The interruption by the word that asks for help, with the words behind it: the name of a
command may follow. -/
def helpTopic : List Text → Interruption
  | [] => .help
  | [word] =>
    if (Command.ofName? word).isSome || word == helpCommand then .help else .unknownCommand word
  | word :: extra :: _ =>
    if (Command.ofName? word).isSome || word == helpCommand then .unknownCommand extra
    else .unknownCommand word

/-- Reads the rest of a command line. -/
def readFrom (progress : Progress) : List RawText → Except Interruption Arguments
  | [] => progress.settle
  | word :: rest =>
    match progress.pending, Word.ofRaw word with
    | _, .separator => match rest with
      | [] => progress.settle
      | extra :: _ => throw (misplaced extra.display)
    | _, .long name value => do readFrom (← progress.takeLong name value) rest
    | _, .short letter attached => do readFrom (← progress.takeShort letter attached) rest
    | .awaiting parameter, .plain value =>
      readFrom { progress with pending := .given parameter value } rest
    | _, .plain raw =>
      let name := raw.display
      match Command.ofName? name with
      | some command => do
        commandRest command rest
        return { ← progress.settle with command := some command }
      | none =>
        if name = helpCommand then throw (helpTopic (rest.map RawText.display))
        else throw (.unknownCommand name)

/-- Reads a command line. -/
def read (words : List RawText) : Except Interruption Arguments :=
  readFrom ⟨.empty, .nothing⟩ words

end SocketMetrics.CommandLine
