import RecordSchema.Text.Ranges

/-! White space: the Unicode property `White_Space` together with the information separators. -/
namespace RecordSchema.Text

/-- Unicode white space and the four information separators U+001C to U+001F. -/
def blanks : Ranges :=
  [
    (0x9, 0xD), (0x1C, 0x20), (0x85, 0x85), (0xA0, 0xA0), (0x1680, 0x1680), (0x2000, 0x200A),
    (0x2028, 0x2029), (0x202F, 0x202F), (0x205F, 0x205F), (0x3000, 0x3000)]

/-- Whether a character is white space. -/
def isBlank (c : Char) : Bool := blanks.contains c

/-- The text without the white space at its end. -/
def trimEnd (text : List Char) : List Char := (text.reverse.dropWhile isBlank).reverse

end RecordSchema.Text
