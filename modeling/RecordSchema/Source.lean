import RecordSchema.Csv.Records
import RecordSchema.Files.Path
import RecordSchema.Source.Error
import RecordSchema.Text.Lines
import RecordSchema.Validation

/-! Where schemas and records come from: JSON files, tables in comma-separated text, the standard input, and
JSON that stands in the place of a path. -/
namespace RecordSchema

open Files

variable {m : Type → Type} [Monad m]

/-- A reading action: an effect that ends with a result or an error. -/
abbrev Reading (m : Type → Type) := ExceptT SourceError m

/-- The action with a result that is already decided. -/
def Reading.ofExcept {α : Type} (result : Except SourceError α) : Reading m α := ExceptT.mk (pure result)

/-- The action that accesses a disk, given the error that an access error is to it. -/
def Reading.ofAccess {α : Type} (asError : AccessError → SourceError) (access : m (Except AccessError α)) :
    Reading m α :=
  ExceptT.mk (Except.mapError asError <$> access)

/-- The text of octets. Line ends are unified. -/
def documentText (octets : List UInt8) : Except SourceError (List Char) :=
  ((Text.utf8Decode octets).map Text.unifyLineEnds).mapError .notUtf8

/-- The value in the octets of a JSON file with the given path. -/
def documentOf (path : String) (octets : List UInt8) : Except SourceError Value := do
  let text ← documentText octets
  (Json.read text).mapError (SourceError.ofReadError (.malformedFile path))

/-- The error that an access error at a path is to someone who opens a document there. -/
def openError (path : String) : AccessError → SourceError
  | .notFound => .fileNotFound path
  | error => .access error path

/-- The octets of the file at a path. -/
def openFile (disk : Disk m) (path : String) : Reading m (List UInt8) :=
  .ofAccess (openError path) (disk.readOctets path)

/-- The value in a JSON file. -/
def readDocument (disk : Disk m) (path : String) : Reading m Value := do
  let path := normalPath path
  let octets ← openFile disk path
  .ofExcept (documentOf path octets)

/-- The schema in a JSON file, which has to be a mapping. -/
def readSchema (disk : Disk m) (path : String) : Reading m Value := do
  match ← readDocument disk path with
  | .mapping kind entries => pure (.mapping kind entries)
  | v => throw (.schemaNotAnObject path v.typeName)

/-- The validator of the schema in a JSON file. -/
def Validator.ofFile (disk : Disk m) (path logger : String) : Reading m Validator := do
  match ← readDocument disk path with
  | .mapping _ entries => pure ⟨Value.ruleEntries entries, logger⟩
  | v => throw (.schemaNotAnObject path v.typeName)

/-- Records, and whether they came as a sequence. -/
structure Records where
  items : List Value
  many : Bool

/-- The records that a JSON value holds: the items of an array, or the value itself. -/
def Records.ofValue : Value → Records
  | .list items => ⟨items, true⟩
  | v => ⟨[v], false⟩

/-- The records in the octets of a table. -/
def Records.ofTable (octets : List UInt8) : Except SourceError Records := do
  let records ← (Csv.records octets).mapError .notATable
  return ⟨records.map fun cells => .mapping .plain (cells.map fun (name, cell) => (name, .text cell)), true⟩

/-- The records that a text on the standard input holds. -/
def Records.ofInput (input : String) : Except SourceError Records :=
  ((Json.read input.toList).mapError (SourceError.ofReadError .malformedInput)).map .ofValue

/-- The action that reads the records on the standard input. -/
def Reading.ofInput (input : m String) : Reading m Records := ExceptT.mk (Records.ofInput <$> input)

/-- The records that a text holds in the place of a path. -/
def Records.ofLiteral (text : String) : Except SourceError Records :=
  ((Json.read text.toList).mapError (SourceError.ofReadError fun _ => .notASource text)).map .ofValue

/-- The name of the standard input among sources. -/
def inputMark : String := "-"

/-- The extension of tables. -/
def tableExtension : List Char := ".csv".toList

/-- The records at a source: the standard input, a table, a JSON file, or else JSON itself. -/
def readRecords (disk : Disk m) (input : m String) (source : String) : Reading m Records := do
  if source = inputMark then .ofInput input
  else
    let path := normalPath source
    if ← .ofAccess (SourceError.access · path) (disk.isFile path) then
      let octets ← openFile disk path
      .ofExcept (
        if (pathExtension path).map Char.toLower = tableExtension then Records.ofTable octets
        else (documentOf path octets).map .ofValue)
    else .ofExcept (Records.ofLiteral source)

end RecordSchema
