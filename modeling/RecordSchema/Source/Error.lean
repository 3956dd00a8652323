import RecordSchema.Csv.Rows
import RecordSchema.Files.Access
import RecordSchema.Json.Reader
import RecordSchema.Text.Utf8

/-! Why a schema or records cannot be read. -/
namespace RecordSchema

/-- Why a schema or records cannot be read. -/
inductive SourceError where
  | fileNotFound (path : String)
  /-- A path leads to something that is no readable file. -/
  | access (error : Files.AccessError) (path : String)
  | notUtf8 (error : Text.Utf8Error)
  /-- A file does not hold JSON. -/
  | malformedFile (path : String) (complaint : Json.Complaint)
  /-- The standard input does not hold JSON. -/
  | malformedInput (complaint : Json.Complaint)
  /-- An integer in JSON has too many digits. -/
  | tooManyDigits (count : Nat)
  /-- A schema file holds something other than an object. -/
  | schemaNotAnObject (path found : String)
  /-- A text is neither the path of a file nor JSON. -/
  | notASource (text : String)
  | notATable (error : Csv.CsvError)
  deriving DecidableEq, Repr

namespace SourceError

/-- The text of an error. -/
def message : SourceError → String
  | .fileNotFound path => "File not found: " ++ path
  | .access error path => error.message path
  | .notUtf8 error => error.message
  | .malformedFile path complaint => "Invalid JSON in " ++ path ++ ": " ++ complaint.message
  | .malformedInput complaint => complaint.message
  | .tooManyDigits count => tooManyDigitsMessage count
  | .schemaNotAnObject path found => "Schema at '" ++ path ++ "' must be a JSON object, got " ++ found
  | .notASource text => "INPUT is neither a file nor valid JSON: " ++ Text.quoted text
  | .notATable error => error.message

/-- Whether the error is due to the system below and not to what was to be read. -/
def isSystem : SourceError → Bool
  | .access .embeddedNul _ => false
  | .access _ _ => true
  | _ => false

/-- The error of a JSON text, given the error that a mistake in it is. -/
def ofReadError (malformed : Json.Complaint → SourceError) : Json.ReadError → SourceError
  | .malformed complaint => malformed complaint
  | .tooManyDigits count => .tooManyDigits count

end SourceError
end RecordSchema
