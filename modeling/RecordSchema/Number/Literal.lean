/-! Decimal numerals: the digits, the point and the exponent of a written number, before it is rounded to
any format. -/
namespace RecordSchema.Number

/-- A written number, `± coefficient · 10 ^ exponent`. -/
structure Literal where
  negative : Bool
  coefficient : Nat
  exponent : Int
  deriving DecidableEq, Repr

/-- An ASCII digit. -/
def isDecimalDigit (c : Char) : Bool := '0' ≤ c && c ≤ '9'

/-- The number that a run of ASCII digits spells. -/
def valueOfDigits (digits : List Char) : Nat :=
  digits.foldl (fun value digit => 10 * value + (digit.toNat - 48)) 0

/-- The longest run of ASCII digits at the start of a text, and the rest. -/
def spanDigits (text : List Char) : List Char × List Char :=
  (text.takeWhile isDecimalDigit, text.dropWhile isDecimalDigit)

/-- An optional sign at the start of a text: whether it is a minus, and the rest. -/
def readSign : List Char → Bool × List Char
  | '-' :: rest => (true, rest)
  | '+' :: rest => (false, rest)
  | text => (false, text)

/-- An exponent part at the start of a text, which needs a digit after the letter and the sign. -/
def readExponent? : List Char → Option (Int × List Char)
  | [] => none
  | c :: rest =>
    if c = 'e' || c = 'E' then
      let (negative, unsigned) := readSign rest
      match spanDigits unsigned with
      | ([], _) => none
      | (digits, after) =>
        let size : Int := valueOfDigits digits
        some (if negative then -size else size, after)
    else none

/-- A fraction part at the start of a text: a point and the digits after it. -/
def readFraction : List Char → Option (List Char × List Char)
  | '.' :: rest => some (spanDigits rest)
  | _ => none

/-- A whole text as a numeral: a sign, digits with a point among, before or after them, and an exponent.
There is at least one digit besides those of the exponent. -/
def Literal.read? (text : List Char) : Option Literal := do
  let (negative, unsigned) := readSign text
  let (whole, afterWhole) := spanDigits unsigned
  let (fraction, afterFraction) := (readFraction afterWhole).getD ([], afterWhole)
  if whole.isEmpty && fraction.isEmpty then none
  let (exponent, rest) := (readExponent? afterFraction).getD (0, afterFraction)
  if rest.isEmpty then
    some ⟨negative, valueOfDigits (whole ++ fraction), exponent - fraction.length⟩
  else none

end RecordSchema.Number
