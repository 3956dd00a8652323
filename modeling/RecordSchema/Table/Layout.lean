import RecordSchema.Value.Display

/-! Tables of truth values laid out for reading: labels to the left of their column, names and cells to the
right of theirs, and two blanks between columns. -/
namespace RecordSchema.Table

/-- The greatest number of characters in any of the texts. -/
def widest (texts : List String) : Nat := (texts.map String.length).foldl max 0

/-- Blanks that fill a text up to a width. -/
def filler (width : Nat) (text : String) : String := String.ofList (List.replicate (width - text.length) ' ')

/-- A text at the left of a width. -/
def alignLeft (width : Nat) (text : String) : String := text ++ filler width text

/-- A text at the right of a width. -/
def alignRight (width : Nat) (text : String) : String := filler width text ++ text

/-- The lines of a column that is aligned to its widest text, its name included. -/
def columnLines (name : String) (cells : List String) : List String :=
  let texts := name :: cells
  texts.map (alignRight (widest texts))

/-- The lines of a table: a header and one line for every row. -/
def layout (columns labels : List String) (rows : List (List Bool)) : List String :=
  let labelLines := "" :: labels
  let shown := columns.mapIdx fun index name =>
    columnLines name (rows.map fun row => (Value.bool (row[index]?.getD false)).display)
  shown.foldl (List.zipWith fun line cell => line ++ "  " ++ cell)
    (labelLines.map (alignLeft (widest labelLines)))

end RecordSchema.Table
