/-! Line ends. -/
namespace RecordSchema.Text

/-- Every carriage return, and every carriage return with the line feed after it, becomes one line feed. -/
def unifyLineEnds : List Char → List Char
  | [] => []
  | '\r' :: '\n' :: rest => '\n' :: unifyLineEnds rest
  | '\r' :: rest => '\n' :: unifyLineEnds rest
  | c :: rest => c :: unifyLineEnds rest

/-- The characters that end a line of a text: controls, information separators and the Unicode line and
paragraph separators. -/
def isLineEnd (c : Char) : Bool :=
  (0x0A ≤ c.toNat && c.toNat ≤ 0x0D) || (0x1C ≤ c.toNat && c.toNat ≤ 0x1E) || c.toNat == 0x85 ||
    c.toNat == 0x2028 || c.toNat == 0x2029

/-- The lines of a text whose first line begins with the given characters, last one first. -/
def linesFrom (line : List Char) : List Char → List (List Char)
  | [] => if line.isEmpty then [] else [line.reverse]
  | c :: rest => if isLineEnd c then line.reverse :: linesFrom [] rest else linesFrom (c :: line) rest

/-- The lines of a text, without their ends. A text that ends with a line end has no empty last line, and
a carriage return with the line feed after it is one end. -/
def lines (text : List Char) : List (List Char) := linesFrom [] (unifyLineEnds text)

end RecordSchema.Text
