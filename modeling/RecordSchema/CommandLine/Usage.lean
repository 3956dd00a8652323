import RecordSchema.Validation.Action

/-! What the command line offers: its options, their values, and the texts that explain them. -/
namespace RecordSchema.CommandLine

/-- The name of the program. -/
def programName : String := "object-validator"

/-- The version of the program. -/
def version : String := "1.0.0"

/-- The forms in which reports are written. -/
inductive Format where
  | json
  | markdown
  | csv
  deriving DecidableEq, Repr

/-- The forms by name. -/
def Format.named : List (String × Format) := [("json", .json), ("markdown", .markdown), ("csv", .csv)]

/-- The options. -/
inductive Switch where
  | help
  | version
  | format
  | logLevel
  deriving DecidableEq, Repr

namespace Switch

/-- The short name of the option that has one. -/
def shortHelp : String := "-h"

/-- The options by name, in the order in which they are looked through. -/
def named : List (String × Switch) :=
  [(shortHelp, .help), ("--help", .help), ("--version", .version), ("--format", .format),
    ("--log-level", .logLevel)]

/-- The names of an option. -/
def names (switch : Switch) : List String := (named.filter (·.2 = switch)).map (·.1)

/-- The names of the values that an option takes; an option without any takes no value. -/
def choices : Switch → List String
  | .help | .version => []
  | .format => Format.named.map (·.1)
  | .logLevel => Level.named.map (·.1)

/-- An option with the values that it takes. -/
def synopsis (switch : Switch) : String :=
  let name := switch.names.headD ""
  if switch.choices.isEmpty then name
  else name ++ " \x7b" ++ String.intercalate "," switch.choices ++ "\x7d"

end Switch

/-- An argument that may be left out. -/
def optional (argument : String) : String := "[" ++ argument ++ "]"

/-- The name of the argument that gives the schema. -/
def schemaName : String := "SCHEMA"

/-- The name of the argument that gives the records. -/
def inputName : String := "INPUT"

/-- Lines, each with its end. -/
def unlines (lines : List String) : String := String.join (lines.map (· ++ "\n"))

/-- The lines that show how the program is called. -/
def usage : String :=
  let margin := String.ofList (List.replicate ("usage: ".length + programName.length + 1) ' ')
  unlines [
    "usage: " ++ programName ++ " " ++
      String.intercalate " " ([Switch.help, .version, .format].map fun switch => optional switch.synopsis),
    margin ++ optional Switch.logLevel.synopsis,
    margin ++ schemaName ++ " " ++ optional inputName]

/-- The usage with an explanation of every argument. -/
def help : String :=
  usage ++ unlines [
    "",
    "Validate JSON or CSV records against a field schema.",
    "",
    "positional arguments:",
    "  SCHEMA                JSON file holding the schema.",
    "  INPUT                 JSON/CSV file, JSON literal, or '-' for stdin",
    "                        (default).",
    "",
    "options:",
    "  -h, --help            show this help message and exit",
    "  --version             show program's version number and exit",
    "  " ++ Switch.format.synopsis,
    "                        Output format for the result trees.",
    "  " ++ Switch.logLevel.synopsis,
    "                        Logging threshold for diagnostics (default: WARNING)."]

/-- The version with the name of the program. -/
def versionLine : String := programName ++ " : " ++ version ++ "\n"

end RecordSchema.CommandLine
