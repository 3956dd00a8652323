import RecordSchema.Csv.Rows

/-! Records in comma-separated text. The first row is the header and names the columns; every other row is
a record, in which an empty cell is an absent field. -/
namespace RecordSchema.Csv

/-- The name of a column without one, by its index. -/
def placeholder (index : Nat) : String := s!"Unnamed: {index}"

/-- A name with a number added to it. -/
def numbered (name : String) (number : Nat) : String := s!"{name}.{number}"

/-- The name with the least number, from one on, that makes it different from the given names. -/
def freeName (names : List String) (name : String) : String :=
  (((List.range (names.length + 1)).map fun k => numbered name (k + 1)).find? (!names.contains ·)).getD name

/-- Names columns in the order of the indexes: a name that is taken gets a number. -/
def settleNames : (order : List Nat) → (taken names : List String) → List String
  | [], _, names => names
  | index :: order, taken, names => match names[index]? with
    | none => settleNames order taken names
    | some name =>
      if taken.contains name then
        let free := freeName names name
        settleNames order (free :: taken) (names.set index free)
      else settleNames order (name :: taken) names

/-- The names of the columns under a header. Columns without a name get a placeholder and, where a name
is repeated, come last. -/
def columnNames (header : List String) : List String :=
  let indexes := List.range header.length
  let unnamed := fun index => header[index]? == some ""
  settleNames (indexes.filter (!unnamed ·) ++ indexes.filter unnamed) []
    (header.mapIdx fun index name => if name.isEmpty then placeholder index else name)

/-- The text that a field encodes. -/
def cellText (field : Field) : Except CsvError String :=
  ((Text.utf8Decode field).map String.ofList).mapError .notUtf8

/-- Lists of one length as the lists of their first members, of their second ones, and so on. -/
def transpose {α : Type} (length : Nat) (lists : List (List α)) : List (List α) :=
  lists.foldr (List.zipWith (· :: ·)) (List.replicate length [])

/-- The texts of the cells of rows with one length. They are read column by column, so among faulty cells the
first one of the leftmost column counts. -/
def cellTexts (width : Nat) (body : List (List Field)) : Except CsvError (List (List String)) := do
  let columns ← (transpose width body).mapM (·.mapM cellText)
  return transpose body.length columns

/-- The records of a text. The names of the columns are read as soon as the row after them is complete, so a
faulty name counts before an error in a later row, and that before a faulty cell. If the first record has more
cells than there are columns, its surplus leading cells are labels of rows and belong to no column. -/
def records (octets : List UInt8) : Except CsvError (List (List (String × String))) := do
  let (rows, error?) := rows octets
  match rows, error? with
  | [], some error | [_], some error => throw error
  | [], none => throw .noColumns
  | header :: body, error? =>
    let names := columnNames (← header.mapM cellText)
    if let some error := error? then throw error
    let width := (body.head?.map List.length).getD 0
    let cells ← cellTexts width body
    return cells.map fun row => (names.zip (row.drop (width - names.length))).filter fun (_, cell) => cell ≠ ""

end RecordSchema.Csv
