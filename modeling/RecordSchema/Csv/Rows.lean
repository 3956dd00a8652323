import RecordSchema.Text.Utf8

/-! The rows of comma-separated text. The text is read one octet at a time by a machine, whose state says what
the last octets belong to; what the octets of a cell encode is no concern of it.

A field that starts with a double quote goes on to the next single one, across commas and line ends; two
double quotes in it stand for one. Lines that are empty or hold only spaces and tabs are passed over, and so
is a comma right after the carriage return of such a line. Every row is filled up with empty fields to the
length of the row above it. The first row after the header may be longer than the header; no later row may be
longer than the one above it. -/
namespace RecordSchema.Csv

/-- Why a text is no table. -/
inductive CsvError where
  /-- There is no row at all. -/
  | noColumns
  /-- A quoted field does not end; the lines before its row are counted. -/
  | openQuote (lines : Nat)
  /-- A row has more fields than the row above it. -/
  | surplusFields (expected line found : Nat)
  /-- A cell holds octets that encode no text. -/
  | notUtf8 (error : Text.Utf8Error)
  deriving DecidableEq, Repr

/-- The text of an error. -/
def CsvError.message : CsvError → String
  | .noColumns => "No columns to parse from file"
  | .openQuote lines => s!"Error tokenizing data. C error: EOF inside string starting at row {lines}"
  | .surplusFields expected line found =>
    s!"Error tokenizing data. C error: Expected {expected} fields in line {line}, saw {found}\n"
  | .notUtf8 error => error.message

/-- A field, as the octets that are its content. -/
abbrev Field := List UInt8

/-- What the last octets belong to. -/
inductive Place where
  /-- To a line end before a row. -/
  | lineStart
  /-- To a line of nothing but spaces and tabs so far, last one first. -/
  | blankLine (text : Field)
  /-- To the carriage return after a blank line. -/
  | afterBlankReturn
  /-- To a comma, so that a field comes next. -/
  | fieldStart
  /-- To a field that is not or no longer quoted. -/
  | plainField
  /-- To a quoted field. -/
  | quotedField
  /-- To a double quote in a quoted field. -/
  | afterQuote
  /-- To the carriage return after a row. -/
  | afterReturn

/-- The comma, which separates fields. -/
def comma : UInt8 := 0x2C

/-- The double quote. -/
def quoteMark : UInt8 := 0x22

/-- The line feed. -/
def lineFeed : UInt8 := 0x0A

/-- The carriage return. -/
def carriageReturn : UInt8 := 0x0D

/-- Whether an octet leaves a line blank. -/
def isSpace (octet : UInt8) : Bool := octet = 0x20 || octet = 0x09

/-- What has been read so far. Lists have their last member first. -/
structure Scan where
  place : Place
  /-- The octets of the field that goes on. -/
  field : Field
  /-- The fields of the row that goes on. -/
  fields : List Field
  rows : List (List Field)
  /-- How many lines have been finished. -/
  lines : Nat

namespace Scan

/-- Nothing has been read. -/
def empty : Scan := ⟨.lineStart, [], [], [], 0⟩

/-- Goes on with an octet in the field. -/
def push (scan : Scan) (octet : UInt8) (place : Place) : Scan :=
  { scan with field := octet :: scan.field, place := place }

/-- Ends the field. -/
def endField (scan : Scan) (place : Place) : Scan :=
  { scan with field := [], fields := scan.field.reverse :: scan.fields, place := place }

/-- Passes over a line. -/
def passLine (scan : Scan) (place : Place) : Scan := { scan with place := place, lines := scan.lines + 1 }

/-- Adds a row, filled up to a length. -/
def addRow (scan : Scan) (row : List Field) (length : Nat) : Scan :=
  let filled := row ++ List.replicate (length - row.length) []
  { scan.passLine .lineStart with fields := [], rows := filled :: scan.rows }

/-- Ends the row. -/
def endRow (scan : Scan) : Except CsvError Scan :=
  let row := scan.fields.reverse
  match scan.rows with
  | [] => .ok (scan.addRow row 0)
  | [header] => .ok (scan.addRow row header.length)
  | previous :: _ =>
    if previous.length < row.length then
      .error (.surplusFields previous.length (scan.lines + 1) row.length)
    else .ok (scan.addRow row previous.length)

/-- An octet of a field that is not quoted. -/
def inField (scan : Scan) (octet : UInt8) : Except CsvError Scan :=
  if octet = lineFeed then (scan.endField .lineStart).endRow
  else if octet = carriageReturn then .ok (scan.endField .afterReturn)
  else if octet = comma then .ok (scan.endField .fieldStart)
  else .ok (scan.push octet .plainField)

/-- The first octet of a field. -/
def startField (scan : Scan) (octet : UInt8) : Except CsvError Scan :=
  if octet = quoteMark then .ok { scan with place := .quotedField } else scan.inField octet

/-- The octet after a blank text at the start of a line. If the line is not blank after all, the text begins its
first field. -/
def inBlankLine (scan : Scan) (text : Field) (octet : UInt8) : Except CsvError Scan :=
  if octet = lineFeed then .ok (scan.passLine .lineStart)
  else if octet = carriageReturn then .ok (scan.passLine .afterBlankReturn)
  else if isSpace octet then .ok { scan with place := .blankLine (octet :: text) }
  else match text with
    | [] => scan.startField octet
    | text => { scan with field := text }.inField octet

/-- The first octet of a line. -/
def startLine (scan : Scan) (octet : UInt8) : Except CsvError Scan := scan.inBlankLine [] octet

/-- One step of the machine. -/
def step (scan : Scan) (octet : UInt8) : Except CsvError Scan :=
  match scan.place with
  | .lineStart => scan.startLine octet
  | .blankLine text => scan.inBlankLine text octet
  | .afterBlankReturn =>
    if octet = lineFeed || octet = comma then .ok { scan with place := .lineStart } else scan.startLine octet
  | .fieldStart => scan.startField octet
  | .plainField => scan.inField octet
  | .quotedField =>
    .ok (if octet = quoteMark then { scan with place := .afterQuote } else scan.push octet .quotedField)
  | .afterQuote => if octet = quoteMark then .ok (scan.push octet .quotedField) else scan.inField octet
  | .afterReturn => do
    let next ← scan.endRow
    if octet = lineFeed then .ok next
    else if octet = comma then .ok (next.endField .fieldStart)
    else next.startLine octet

/-- The end of the text. -/
def finish (scan : Scan) : Except CsvError Scan :=
  match scan.place with
  | .lineStart | .blankLine _ | .afterBlankReturn => .ok scan
  | .fieldStart | .plainField | .afterQuote => (scan.endField .lineStart).endRow
  | .quotedField => .error (.openQuote scan.lines)
  | .afterReturn => scan.endRow

/-- Reads octets up to their end or up to the first error, with what has been read before it. -/
def run (scan : Scan) : List UInt8 → Scan × Option CsvError
  | [] => match scan.finish with
    | .ok done => (done, none)
    | .error error => (scan, some error)
  | octet :: octets => match scan.step octet with
    | .ok next => run next octets
    | .error error => (scan, some error)

end Scan

/-- The octets without a byte order mark at their start. -/
def dropMark : List UInt8 → List UInt8
  | 0xEF :: 0xBB :: 0xBF :: rest => rest
  | octets => octets

/-- The rows of a text up to its end or up to the first error in it, and that error. -/
def rows (octets : List UInt8) : List (List Field) × Option CsvError :=
  let (scan, error?) := Scan.empty.run (dropMark octets)
  (scan.rows.reverse, error?)

end RecordSchema.Csv
