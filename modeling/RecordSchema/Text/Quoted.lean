import RecordSchema.Text.Hex
import RecordSchema.Text.Printable
import RecordSchema.Text.Surrogate

/-! Quoted texts. A text stands between single quotes, or between double quotes when it holds a single
quote and no double one; a backslash, the quote in use and every unprintable character are escaped. -/
namespace RecordSchema.Text

/-- The single quote. -/
def singleQuote : Char := '\x27'

/-- The double quote. -/
def doubleQuote : Char := '\x22'

/-- The quote that a text with these characters stands in. -/
def quoteFor (text : List Char) : Char :=
  if text.contains singleQuote && !text.contains doubleQuote then doubleQuote else singleQuote

/-- The escapes that have a letter of their own. -/
def letterEscape? (c : Char) : Option Char :=
  if c = '\n' then some 'n' else if c = '\r' then some 'r' else if c = '\t' then some 't' else none

/-- One character of a quoted text. An unprintable one is written by its code point, in the narrowest of
the forms `\xNN`, `\uNNNN` and `\UNNNNNNNN` that holds it. -/
def escapeChar (quote c : Char) : List Char :=
  if c = quote || c = '\\' then ['\\', c]
  else match letterEscape? c, halfOf? c with
    | some letter, _ => ['\\', letter]
    | none, some half => '\\' :: 'u' :: hex 4 half
    | none, none =>
      if isPrintable c then [c]
      else if c.toNat < 0x100 then '\\' :: 'x' :: hex 2 c.toNat
      else if c.toNat < 0x10000 then '\\' :: 'u' :: hex 4 c.toNat
      else '\\' :: 'U' :: hex 8 c.toNat

/-- A text in quotes. -/
def quoteChars (text : List Char) : List Char :=
  let quote := quoteFor text
  quote :: (text.flatMap (escapeChar quote) ++ [quote])

/-- A text in quotes. -/
def quoted (text : String) : String := String.ofList (quoteChars text.toList)

/-- One octet of quoted octets: ASCII that prints stands for itself. -/
def escapeOctet (quote : Char) (octet : UInt8) : List Char :=
  let c := Char.ofNat octet.toNat
  if c = quote || c = '\\' then ['\\', c]
  else match letterEscape? c with
    | some letter => ['\\', letter]
    | none =>
      if 0x20 ≤ octet.toNat && octet.toNat < 0x7F then [c]
      else '\\' :: 'x' :: hex 2 octet.toNat

/-- Octets in quotes after the letter `b`. -/
def quotedOctets (octets : List UInt8) : String :=
  let quote := quoteFor (octets.map fun octet => Char.ofNat octet.toNat)
  String.ofList ('b' :: quote :: (octets.flatMap (escapeOctet quote) ++ [quote]))

end RecordSchema.Text
