import RecordSchema.CommandLine.Usage
import RecordSchema.Source
import RecordSchema.Text.Digit

/-! The arguments of the command line.

An argument is first classified by its own text alone; then the classified arguments are taken from left to
right. The schema and the input are taken together: once the schema has been given, an option ends the
wait for the input. -/
namespace RecordSchema.CommandLine

/-- What the arguments ask for. -/
structure Settings where
  schema : String
  input : String
  format : Format
  /-- The least level of the log, unless the option for it was given without any. -/
  level : Option Level

/-- What to do. -/
inductive Request where
  | showHelp
  | showVersion
  | validate (settings : Settings)

/-- What is wrong with the arguments. -/
inductive ArgumentError where
  | schemaMissing
  | unrecognized (arguments : List String)
  /-- An abbreviation stands for more than one option. -/
  | ambiguous (argument : String) (names : List String)
  | invalidChoice (switch : Switch) (value : String)
  | valueMissing (switch : Switch)
  | valueIgnored (switch : Switch) (value : String)
  deriving DecidableEq, Repr

/-- The mark after which no argument is an option. -/
def endMark : String := "--"

/-! ## Classification -/

/-- An argument by its form. -/
inductive Word where
  /-- An option, with the value that is written together with it. -/
  | option (switch : Switch) (value : Option String)
  /-- Something in the form of an option that is none. -/
  | unknown (text : String)
  | plain (text : String)
  /-- The first mark that ends the options. -/
  | mark
  deriving DecidableEq, Repr

/-- A text cut at its first equals sign. -/
def cutAtEquals (text : List Char) : List Char × Option (List Char) :=
  match text.dropWhile (· ≠ '=') with
  | [] => (text, none)
  | _ :: value => (text.takeWhile (· ≠ '='), some value)

/-- Whether a character is a decimal digit of any script. -/
def isDecimal (c : Char) : Bool := (Text.decimalValue? c).isSome

/-- Whether a text is a minus sign with digits after it, among which there may be a point before the last
one. A line feed may follow. -/
def isNegativeNumber : List Char → Bool
  | '-' :: rest =>
    let body := if rest.getLast? = some '\n' then rest.dropLast else rest
    let whole := body.takeWhile isDecimal
    match body.drop whole.length with
    | [] => !whole.isEmpty
    | '.' :: fraction => !fraction.isEmpty && fraction.all isDecimal
    | _ => false
  | _ => false

/-- The options that a text with two leading hyphens abbreviates, with the value written after an equals
sign. -/
def abbreviated (text : List Char) : List (String × Switch) × Option String :=
  let (name, value) := cutAtEquals text
  (Switch.named.filter fun (full, _) => name.isPrefixOf full.toList, value.map String.ofList)

/-- What follows the short name of the help option in one argument and makes no sense there: everything after
any further letters of the same name. -/
def refusedLetters : List Char → Option (List Char)
  | [] => none
  | 'h' :: rest => refusedLetters rest
  | letters => some letters

/-- The word that an argument in the form of an option is if it is no option. -/
def otherWord (text : String) : Word :=
  if isNegativeNumber text.toList || text.toList.contains ' ' then .plain text else .unknown text

/-- The word that an argument is, unless it is the mark that ends the options. -/
def classify (text : String) : Except ArgumentError Word :=
  match text.toList, Switch.named.lookup text with
  | '-' :: _ :: _, some switch => .ok (.option switch none)
  | '-' :: '-' :: name, none =>
    match abbreviated ('-' :: '-' :: name) with
    | ([(_, switch)], value) => .ok (.option switch value)
    | ([], _) => .ok (otherWord text)
    | (several, _) => .error (.ambiguous text (several.map (·.1)))
  | ['-', 'h', '='], none => .ok (.option .help (some ""))
  | '-' :: 'h' :: '=' :: letters, none | '-' :: 'h' :: letters, none =>
    .ok (.option .help ((refusedLetters letters).map String.ofList))
  | '-' :: _ :: _, none => .ok (otherWord text)
  | _, _ => .ok (.plain text)

/-- The words that arguments are. -/
def classifyAll : List String → Except ArgumentError (List Word)
  | [] => .ok []
  | text :: texts =>
    if text = endMark then .ok (.mark :: texts.map .plain)
    else do return (← classify text) :: (← classifyAll texts)

/-! ## Taking the words -/

/-- What has been waited for last. -/
inductive Stage where
  /-- The schema. -/
  | schema
  /-- The input, which has to follow the schema at once. -/
  | input
  /-- A mark right after the input, which has no meaning there. -/
  | mark
  /-- Nothing more. -/
  | surplus
  deriving DecidableEq, Repr

/-- An option ends the wait for the input. -/
def Stage.interrupt : Stage → Stage
  | .schema => .schema
  | _ => .surplus

/-- The arguments so far. -/
structure Draft where
  stage : Stage
  settings : Settings
  /-- The arguments that nothing waited for, in order. -/
  surplus : List String

namespace Draft

/-- The settings without any argument. -/
def start : Draft := ⟨.schema, ⟨"", inputMark, .json, some .warning⟩, []⟩

/-- The draft after an argument that nothing waited for. -/
def reject (draft : Draft) (text : String) (stage : Stage) : Draft :=
  { draft with stage := stage, surplus := draft.surplus ++ [text] }

/-- The draft after a plain argument. A mark in the place of the input leaves the input as it is. -/
def takePlain (draft : Draft) (text : String) : Draft :=
  match draft.stage with
  | .schema => { draft with stage := .input, settings := { draft.settings with schema := text } }
  | .input =>
    { draft with
      stage := .mark
      settings := { draft.settings with input := if text = endMark then inputMark else text } }
  | .mark | .surplus => draft.reject text .surplus

/-- The draft after the mark that ends the options. -/
def takeMark (draft : Draft) : Draft :=
  match draft.stage with
  | .schema | .input => draft
  | .mark => { draft with stage := .surplus }
  | .surplus => draft.reject endMark .surplus

/-- The settings with the value of an option. A mark in the place of the value is no value: without a form
reports are written in JSON, and without a level there is none. -/
def setValue (settings : Settings) (switch : Switch) (value : String) : Except ArgumentError Settings :=
  match switch, Format.named.lookup value, Level.named.lookup value with
  | .format, some format, _ => .ok { settings with format := format }
  | .logLevel, _, some level => .ok { settings with level := some level }
  | .format, none, _ =>
    if value = endMark then .ok { settings with format := .json } else .error (.invalidChoice .format value)
  | .logLevel, _, none =>
    if value = endMark then .ok { settings with level := none } else .error (.invalidChoice .logLevel value)
  | switch, _, _ => .error (.invalidChoice switch value)

/-- The draft after an option with its value. -/
def takeValue (draft : Draft) (switch : Switch) (value : String) : Except ArgumentError Draft := do
  let settings ← setValue draft.settings switch value
  return { draft with stage := draft.stage.interrupt, settings := settings }

/-- What the arguments come to in the end. -/
def finish (draft : Draft) : Except ArgumentError Request :=
  if draft.stage = .schema then .error .schemaMissing
  else if draft.surplus.isEmpty then .ok (.validate draft.settings)
  else .error (.unrecognized draft.surplus)

end Draft

/-- The request that an option without values makes. -/
def requestOf (request : Request) (switch : Switch) : Option String → Except ArgumentError Request
  | none => .ok request
  | some value => .error (.valueIgnored switch value)

/-- Takes words from left to right. -/
def takeWords (draft : Draft) : List Word → Except ArgumentError Request
  | [] => draft.finish
  | .plain text :: words => takeWords (draft.takePlain text) words
  | .mark :: words => takeWords draft.takeMark words
  | .unknown text :: words => takeWords (draft.reject text draft.stage.interrupt) words
  | .option .help value :: _ => requestOf .showHelp .help value
  | .option .version value :: _ => requestOf .showVersion .version value
  | .option switch (some value) :: words => do takeWords (← draft.takeValue switch value) words
  | .option switch none :: .plain value :: words => do takeWords (← draft.takeValue switch value) words
  | .option switch none :: _ => .error (.valueMissing switch)

/-- The request that arguments make. -/
def parse (arguments : List String) : Except ArgumentError Request := do
  takeWords .start (← classifyAll arguments)

/-! ## Messages -/

/-- A complaint about an option. -/
def aboutSwitch (switch : Switch) (complaint : String) : String :=
  "argument " ++ String.intercalate "/" switch.names ++ ": " ++ complaint

/-- The text of an error. -/
def ArgumentError.message : ArgumentError → String
  | .schemaMissing => "the following arguments are required: " ++ schemaName
  | .unrecognized arguments => "unrecognized arguments: " ++ String.intercalate " " arguments
  | .ambiguous argument names => "ambiguous option: " ++ argument ++ " could match " ++ commaSeparated names
  | .invalidChoice switch value =>
    let choices := commaSeparated (switch.choices.map Text.quoted)
    aboutSwitch switch ("invalid choice: " ++ Text.quoted value ++ " (choose from " ++ choices ++ ")")
  | .valueMissing switch => aboutSwitch switch "expected one argument"
  | .valueIgnored switch value => aboutSwitch switch ("ignored explicit argument " ++ Text.quoted value)

/-! ## Files of arguments -/

/-- What marks an argument that names a file of arguments. -/
def fileMark : Char := '@'

/-- How deep files of arguments may name one another. -/
def nestingLimit : Nat := 900

/-- Why a file of arguments cannot be read. -/
inductive ArgumentFileError where
  | access (error : Files.AccessError) (path : String)
  | notUtf8 (error : Text.Utf8Error)
  /-- Files of arguments name one another without end. -/
  | endless
  deriving DecidableEq, Repr

namespace ArgumentFileError

/-- The text of an error. -/
def message : ArgumentFileError → String
  | .access error path => error.message path
  | .notUtf8 error => error.message
  | .endless => "maximum recursion depth exceeded"

/-- Whether the error is a mistake in the arguments. -/
def isUsage : ArgumentFileError → Bool
  | .access .embeddedNul _ | .notUtf8 _ | .endless => false
  | .access _ _ => true

end ArgumentFileError

variable {m : Type → Type} [Monad m]

/-- The lines of a file of arguments. -/
def readArguments (disk : Files.Disk m) (path : String) : ExceptT ArgumentFileError m (List String) :=
  ExceptT.mk do
    match ← disk.readOctets path with
    | .error error => pure (.error (.access error path))
    | .ok octets => match Text.utf8Decode octets with
      | .error error => pure (.error (.notUtf8 error))
      | .ok text => pure (.ok ((Text.lines text).map String.ofList))

/-- The arguments with the lines of every named file in the place of the file, where files name one another
at most `depth` deep. -/
def expandWithin (disk : Files.Disk m) : (depth : Nat) → List String → ExceptT ArgumentFileError m (List String)
  | 0, arguments => if arguments.any (·.toList.head? == some fileMark) then throw .endless else pure arguments
  | depth + 1, arguments => do
    let parts ← arguments.mapM fun argument =>
      match argument.toList with
      | '@' :: path => do
        let lines ← readArguments disk (String.ofList path)
        expandWithin disk depth lines
      | _ => pure [argument]
    pure parts.flatten

/-- The arguments with the lines of every named file in the place of the file. -/
def expand (disk : Files.Disk m) (arguments : List String) : ExceptT ArgumentFileError m (List String) :=
  expandWithin disk nestingLimit arguments

end RecordSchema.CommandLine
