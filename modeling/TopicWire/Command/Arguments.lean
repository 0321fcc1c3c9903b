/-!
# The command line

The inspector is called with a subcommand, a file and options. `Request.ofArguments` reads the words
of a call from left to right and stops at the first that does not fit. A long option takes its value
after `=` or as the next word; short options may be run together, and the rest of the word is then
the value of the first that takes one. A word of a dash and more is never taken for a value, and
after `--` no word is an option. The log level may be given before and after the subcommand, and
then the later one counts.

Help may be asked for by an option anywhere, of the subcommand at hand, or by the word `help` where
a subcommand may stand. The words after this one are all taken for names, whatever their form.
-/

set_option autoImplicit false
set_option relaxedAutoImplicit false

namespace TopicWire.Command

/-- What the inspector is asked to do. -/
inductive Subcommand where
  /-- Read a capture and report on it. -/
  | dump
  /-- Write a sample capture. -/
  | sample
  deriving DecidableEq, Repr

/-- The subcommand of a name. -/
def Subcommand.ofName? (name : String) : Option Subcommand :=
  if name = "dump" then some .dump else if name = "sample" then some .sample else none

/-- A complete call of a subcommand. -/
structure Invocation where
  subcommand : Subcommand
  file : String
  hex : Bool
  quiet : Bool
  logLevel : String
  deriving DecidableEq, Repr

/-- What there is help on: the inspector, a subcommand, or how to ask for help. -/
inductive HelpTopic where
  | inspector
  | subcommand (subcommand : Subcommand)
  | help
  deriving DecidableEq, Repr

namespace HelpTopic

/-- The help of a subcommand, or of the inspector where there is none. -/
def of : Option Subcommand → HelpTopic
  | none => inspector
  | some chosen => subcommand chosen

/-- The topic that a name leads to. Only the inspector has names below it. -/
def next? (topic : HelpTopic) (name : String) : Option HelpTopic :=
  match topic with
  | inspector => if name = "help" then some help else (Subcommand.ofName? name).map subcommand
  | _ => none

end HelpTopic

/-- What a command line asks for. -/
inductive Request where
  | version
  | help (topic : HelpTopic)
  | invocation (invocation : Invocation)
  deriving DecidableEq, Repr

/-- Why a command line asks for nothing. -/
inductive UsageError where
  | missingSubcommand
  | missingFile
  | missingValue
  | emptyFile
  | unknownOption (word : String)
  | repeatedOption (word : String)
  | unexpectedValue (word : String)
  | unexpectedArgument (word : String)
  deriving DecidableEq, Repr

/-- The report of a command line that asks for nothing. -/
def UsageError.message : UsageError → String
  | missingSubcommand => "error: a subcommand is required"
  | missingFile => "error: a file is required"
  | missingValue => "error: a value is required for the log level"
  | emptyFile => "error: the file has no name"
  | unknownOption word => "error: unknown option " ++ word
  | repeatedOption word => "error: option given twice: " ++ word
  | unexpectedValue word => "error: option takes no value: " ++ word
  | unexpectedArgument word => "error: unexpected argument " ++ word

/-- Why a command line is not read to its end: it is wrong, or it asks for the version or for help.
-/
inductive Ending where
  | version
  | help (topic : HelpTopic)
  | wrong (reason : UsageError)
  deriving DecidableEq, Repr

/-- An option of the command line. -/
inductive Setting where
  | logLevel
  | version
  | help
  | hex
  | quiet
  deriving DecidableEq, Repr

namespace Setting

/-- The long name of an option. -/
def name : Setting → String
  | logLevel => "log-level"
  | version => "version"
  | help => "help"
  | hex => "hex"
  | quiet => "quiet"

/-- The letter of an option, if it has one. -/
def letter? : Setting → Option Char
  | logLevel => some 'l'
  | version => some 'V'
  | help => some 'h'
  | hex => none
  | quiet => some 'q'

/-- The options known before a subcommand, and after each. -/
def known : Option Subcommand → List Setting
  | none => [logLevel, version, help]
  | some .dump => [logLevel, hex, quiet, help]
  | some .sample => [logLevel, hex, help]

end Setting

/-- A word of the command line by its form. -/
inductive Word where
  /-- Two dashes alone. -/
  | separator
  /-- Two dashes, a name and perhaps a value after an equals sign. -/
  | long (name : String) (value? : Option String)
  /-- A dash and letters. -/
  | short (letters : List Char)
  /-- Anything else, a single dash included. -/
  | plain
  deriving DecidableEq, Repr

/-- The form of a word. -/
def Word.ofString (word : String) : Word :=
  match word.toList with
  | ['-', '-'] => .separator
  | '-' :: '-' :: letters =>
    .long (String.ofList (letters.takeWhile (· ≠ '=')))
      (match letters.dropWhile (· ≠ '=') with
        | [] => none
        | _ :: value => some (String.ofList value))
  | '-' :: letter :: letters => .short (letter :: letters)
  | _ => .plain

/-- What has been read of a command line. `awaiting` says that a log level has to follow, `literal`
that no word is an option any more, and `topic` that the words are names of what help is wanted
on. -/
structure Progress where
  subcommand : Option Subcommand
  outerLevel : Option String
  logLevel : Option String
  hex : Bool
  quiet : Bool
  file : Option String
  awaiting : Bool
  literal : Bool
  topic : Option HelpTopic
  deriving DecidableEq, Repr

namespace Progress

/-- The state before the first word. -/
def start : Progress := ⟨none, none, none, false, false, none, false, false, none⟩

/-- The state after the word of a subcommand, which may set the log level anew. -/
def enter (p : Progress) (subcommand : Subcommand) : Progress :=
  { start with subcommand := some subcommand, outerLevel := p.logLevel }

/-- Sets the log level, once on each side of the subcommand. -/
def setLevel (p : Progress) (word level : String) : Except Ending Progress :=
  if p.logLevel.isSome then .error (.wrong (.repeatedOption word))
  else .ok { p with logLevel := some level, awaiting := false }

/-- Takes in an option, with the value attached to it in its word. -/
def setOption (p : Progress) (word : String) (setting : Setting) (value? : Option String) :
    Except Ending Progress :=
  if p.awaiting then .error (.wrong .missingValue)
  else
    match setting, value? with
    | .logLevel, some level => p.setLevel word level
    | .logLevel, none => .ok { p with awaiting := true }
    | _, some _ => .error (.wrong (.unexpectedValue word))
    | .version, none => .error .version
    | .help, none => .error (.help (.of p.subcommand))
    | .hex, none =>
      if p.hex then .error (.wrong (.repeatedOption word)) else .ok { p with hex := true }
    | .quiet, none =>
      if p.quiet then .error (.wrong (.repeatedOption word)) else .ok { p with quiet := true }

/-- Takes in the letters of a word of short options. -/
def setLetters (word : String) : List Char → Progress → Except Ending Progress
  | [], p => .ok p
  | letter :: letters, p =>
    match (Setting.known p.subcommand).find? (·.letter? == some letter) with
    | none => .error (.wrong (.unknownOption word))
    | some .logLevel =>
      let value? :=
        match letters with
        | [] => none
        | '=' :: value => some (String.ofList value)
        | value => some (String.ofList value)
      p.setOption word .logLevel value?
    | some setting => do
      let p ← p.setOption word setting none
      setLetters word letters p

/-- Takes in a word that is neither an option nor the value of one. -/
def setPositional (p : Progress) (word : String) : Except Ending Progress :=
  if p.subcommand.isNone || p.file.isSome then .error (.wrong (.unexpectedArgument word))
  else if word.isEmpty then .error (.wrong .emptyFile)
  else .ok { p with file := some word }

/-- Takes in a plain word: the log level that is awaited, a subcommand, or the file. -/
def setPlain (p : Progress) (word : String) : Except Ending Progress :=
  if p.awaiting then p.setLevel "-l" word
  else if p.subcommand = none ∧ word = "help" then .ok { p with topic := some .inspector }
  else
    match p.subcommand, Subcommand.ofName? word with
    | none, some subcommand => .ok (p.enter subcommand)
    | _, _ => p.setPositional word

/-- Takes in a word by its form. -/
def setWord (p : Progress) (word : String) : Except Ending Progress :=
  match Word.ofString word with
  | .separator =>
    if p.awaiting then .error (.wrong .missingValue) else .ok { p with literal := true }
  | .long name value? =>
    match (Setting.known p.subcommand).find? (·.name == name) with
    | none => .error (.wrong (.unknownOption word))
    | some setting => p.setOption word setting value?
  | .short letters => setLetters word letters p
  | .plain => p.setPlain word

/-- Takes in the name of what help is wanted on. -/
def setTopic (p : Progress) (topic : HelpTopic) (word : String) : Except Ending Progress :=
  match topic.next? word with
  | none => .error (.wrong (.unexpectedArgument word))
  | some below => .ok { p with topic := some below }

/-- Takes in the next word. -/
def next (p : Progress) (word : String) : Except Ending Progress :=
  match p.topic with
  | some topic => p.setTopic topic word
  | none => if p.literal then p.setPositional word else p.setWord word

/-- The request of a command line read to its end. -/
def finish (p : Progress) : Except UsageError Request :=
  if p.awaiting then .error .missingValue
  else
    match p.topic, p.subcommand, p.file with
    | some topic, _, _ => .ok (.help topic)
    | none, none, _ => .error .missingSubcommand
    | none, some _, none => .error .missingFile
    | none, some subcommand, some file =>
      .ok (.invocation
        { subcommand := subcommand
          file := file
          hex := p.hex
          quiet := p.quiet
          logLevel := (p.logLevel.or p.outerLevel).getD "info" })

end Progress

/-- The request of a command line. -/
def Request.ofArguments (arguments : List String) : Except UsageError Request :=
  match arguments.foldlM Progress.next .start with
  | .ok progress => progress.finish
  | .error .version => .ok .version
  | .error (.help topic) => .ok (.help topic)
  | .error (.wrong reason) => .error reason

end TopicWire.Command
