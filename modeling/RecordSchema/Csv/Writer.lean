import RecordSchema.Report.Paths

/-! Tables of truth values as comma-separated text. A field is quoted when it holds a comma, a double quote
or a line feed, or when it is empty and the only one of its row. -/
namespace RecordSchema.Csv

/-- Whether a field with a character has to be quoted. -/
def needsQuotes (c : Char) : Bool := c = ',' || c = '\x22' || c = '\n'

/-- A field in double quotes, those in it written twice. -/
def quoteField (field : List Char) : List Char :=
  '\x22' :: (field.flatMap (fun c => if c = '\x22' then ['\x22', '\x22'] else [c]) ++ ['\x22'])

/-- A field as it stands in a row. -/
def writeField (field : List Char) : List Char := if field.any needsQuotes then quoteField field else field

/-- A row of fields. -/
def writeRow : List (List Char) → List Char
  | [[]] => quoteField []
  | fields => List.intercalate [','] (fields.map writeField)

/-- A truth value as a field. -/
def truthField (b : Bool) : List Char := if b then "True".toList else "False".toList

/-- A header and rows of truth values, each on a line of its own. -/
def writeTable (columns : List String) (rows : List (List Bool)) : List Char :=
  (columns.map String.toList :: rows.map (·.map truthField)).flatMap fun fields => writeRow fields ++ ['\n']

end RecordSchema.Csv
