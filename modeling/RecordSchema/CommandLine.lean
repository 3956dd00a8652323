import RecordSchema.CommandLine.Arguments
import RecordSchema.Csv.Writer
import RecordSchema.Json.Writer
import RecordSchema.Report.Card

/-! The command line: from arguments, files and the standard input to an exit code and two texts.

The exit code is 0 when every record is valid, 1 when one is not, and 2 when the arguments or what they name are
of no use. Trouble with the system below is no exit code but a failure of the run. -/
namespace RecordSchema.CommandLine

/-- Why a run fails without an exit code. -/
inductive Failure where
  | arguments (error : ArgumentFileError)
  /-- No level is set for the log. -/
  | noLevel
  | source (error : SourceError)
  | validation (fault : Fault)

/-- How a run ends. -/
inductive Ending where
  | exit (code : Nat)
  | failed (failure : Failure)

/-- A line of the log, which lacks only its time. -/
structure LogLine where
  level : Level
  text : String

/-- What a run leaves behind. -/
structure Transcript where
  ending : Ending
  /-- What is written on the standard output. -/
  output : String
  log : List LogLine
  /-- What is written on the standard error output after the log. -/
  complaint : String

namespace Transcript

/-- The text on the standard error output, given how a time is written. -/
def errorOutput (transcript : Transcript) (time : String) : String :=
  unlines (transcript.log.map fun line => time ++ " " ++ line.level.name ++ " " ++ line.text) ++
    transcript.complaint

/-- A run that only writes a text. -/
def display (output : String) : Transcript := ⟨.exit 0, output, [], ""⟩

/-- A run that refuses its arguments. -/
def refuse (message : String) : Transcript :=
  ⟨.exit 2, "", [], usage ++ programName ++ ": error: " ++ message ++ "\n"⟩

/-- A run that fails. -/
def fail (failure : Failure) : Transcript := ⟨.failed failure, "", [], ""⟩

end Transcript

/-- What stands between the cards of two records. -/
def cardSeparator : String := "\n\n---\n\n"

/-- A text without the line feeds at its end. -/
def trimLineFeeds (text : List Char) : List Char := (text.reverse.dropWhile (· = '\n')).reverse

/-- Reports in a form. In JSON a single record that did not come as a sequence is no array. -/
def render (format : Format) (columns : List String) (many : Bool) (reports : List Report) : String :=
  match format with
  | .json => String.ofList (
      if many then Json.writeReports reports else Json.writeReport (reports.headD []))
  | .markdown => String.intercalate cardSeparator (reports.map (·.card Report.defaultLevel))
  | .csv => String.ofList (trimLineFeeds (Csv.writeTable columns (reports.map (·.rowValues defaultSeparator columns))))

/-- Nothing can be called: no schema file mentions anything that could be. -/
def noCalls : Host Unit := fun _ _ => .fail .unsupported

/-- The log line of an event. -/
def LogLine.ofEvent? : Event → Option LogLine
  | .logged _ notice => some ⟨notice.level, notice.message⟩
  | .called _ _ => none

/-- Judges records and writes the reports. -/
def judge (settings : Settings) (level : Level) (validator : Validator) (records : Records) : Transcript :=
  let outcome := (validator.judge noCalls).validateAll validator.schema records.items ()
  let opening : LogLine :=
    ⟨.info, s!"validating {records.items.length} record(s) against {settings.schema}"⟩
  let log := opening :: outcome.events.filterMap LogLine.ofEvent?
  let kept := fun (lines : List LogLine) => lines.filter (·.level.passes level)
  match outcome.result with
  | .error fault => ⟨.failed (.validation fault), "", kept log, ""⟩
  | .ok reports =>
    let columns := validator.schema.columns defaultSeparator
    let output := render settings.format columns records.many reports ++ "\n"
    let bad := reports.countP (!·.isValid)
    if bad = 0 then ⟨.exit 0, output, kept log, ""⟩
    else
      let closing : LogLine := ⟨.info, s!"{bad} of {reports.length} record(s) failed validation"⟩
      ⟨.exit 1, output, kept (log ++ [closing]), ""⟩

variable {m : Type → Type} [Monad m]

/-- Reads the schema and the records. -/
def load (disk : Files.Disk m) (input : m String) (settings : Settings) : Reading m (Validator × Records) := do
  let validator ← Validator.ofFile disk settings.schema validatorLogger
  let records ← readRecords disk input settings.input
  pure (validator, records)

/-- Validates the records that settings name. Nothing is read without a level for the log. -/
def validate (disk : Files.Disk m) (input : m String) (settings : Settings) : m Transcript := do
  match settings.level with
  | none => pure (.fail .noLevel)
  | some level => match ← (load disk input settings).run with
    | .ok (validator, records) => pure (judge settings level validator records)
    | .error error => pure (if error.isSystem then .fail (.source error) else .refuse error.message)

/-- Does what arguments ask for. -/
def perform (disk : Files.Disk m) (input : m String) (arguments : List String) : m Transcript :=
  match parse arguments with
  | .ok .showHelp => pure (.display help)
  | .ok .showVersion => pure (.display versionLine)
  | .ok (.validate settings) => validate disk input settings
  | .error error => pure (.refuse error.message)

/-- Runs the program with arguments, in which files of arguments may be named. -/
def run (disk : Files.Disk m) (input : m String) (arguments : List String) : m Transcript := do
  match ← (expand disk arguments).run with
  | .ok arguments => perform disk input arguments
  | .error error => pure (if error.isUsage then .refuse error.message else .fail (.arguments error))

/-- The text of a failure, where its wording is fixed. -/
def Failure.message? : Failure → Option String
  | .arguments error => some error.message
  | .noLevel => none
  | .source error => some error.message
  | .validation fault => fault.message?

end RecordSchema.CommandLine
