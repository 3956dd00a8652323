import RecordSchema.Value.Display
import RecordSchema.Value.Truth
import RecordSchema.Text.Blank
import RecordSchema.Text.Digit

/-! Conversion of values to numbers, and the calls of builtin functions. Texts are read with digits of every
script, with white space around them and with single underscores between digits. -/
namespace RecordSchema
namespace Value

open Number Text

/-- A text in which foreign digits and white space have been replaced by ASCII ones; another character
outside ASCII ends the text with a mark that no numeral holds. -/
def foldToAscii : List Char → List Char
  | [] => []
  | c :: rest =>
    if c.toNat < 0x7F then c :: foldToAscii rest
    else if isBlank c then ' ' :: foldToAscii rest
    else match decimalValue? c with
      | some digit => Char.ofNat (48 + digit) :: foldToAscii rest
      | none => ['?']

/-- A character that may stand around a numeral. -/
def isPadding (c : Char) : Bool := c = ' ' || (0x09 ≤ c.toNat && c.toNat ≤ 0x0D)

/-- The text without the padding around it. -/
def unpad (text : List Char) : List Char :=
  ((text.dropWhile isPadding).reverse.dropWhile isPadding).reverse

/-- The text without its underscores, each of which must stand between two digits. -/
def dropUnderscores (afterDigit : Bool) : List Char → Option (List Char)
  | [] => some []
  | '_' :: d :: rest =>
    if afterDigit && isDecimalDigit d then (dropUnderscores true rest).map (d :: ·) else none
  | c :: rest => if c = '_' then none else (dropUnderscores (isDecimalDigit c) rest).map (c :: ·)

/-- The double that a text spells. -/
def readFloat? (text : List Char) : Option Double := do
  let numeral ← dropUnderscores false (unpad (foldToAscii text))
  let (negative, unsigned) := readSign numeral
  let word := unsigned.map Char.toLower
  if word = "inf".toList || word = "infinity".toList then some (.infinity negative)
  else if word = "nan".toList then some (.nan none)
  else (Literal.read? numeral).map Double.ofLiteral

/-- Whether a character belongs to the digits of an integer or stands between them. -/
def isDigitOrUnderscore (c : Char) : Bool := isDecimalDigit c || c = '_'

/-- The integer that a text spells, `none` if it spells none, and the count of its digits if they are too
many. The digits are counted before what follows them is looked at. -/
def readInt? (text : List Char) : Option (Except Nat Int) := do
  let (negative, numeral) := readSign ((foldToAscii text).dropWhile isPadding)
  let digits ← dropUnderscores false (numeral.takeWhile isDigitOrUnderscore)
  if digits.isEmpty then none
  else if digitLimit < digits.length then some (.error digits.length)
  else if (numeral.dropWhile isDigitOrUnderscore).all isPadding then
    let size : Int := valueOfDigits digits
    some (.ok (if negative then -size else size))
  else none

/-- The octets in ASCII, as the characters of a numeral. -/
def numeralOctets (bytes : List UInt8) : List Char :=
  bytes.map fun byte => if byte.toNat < 0x7F then Char.ofNat byte.toNat else '?'

/-- A fraction in a double, unless it is too large. -/
def floatOfRat (q : Rat) : Except Fault Double :=
  match Double.ofRatio (decide (q < 0)) q.num.natAbs q.den with
  | .infinity _ => .error .overflow
  | x => .ok x

/-- The double that a value converts to. -/
def toFloat (v : Value) : Except Fault Double :=
  match v with
  | .float x => .ok x
  | .complex _ _ => .error .unsupported
  | .octets bytes => spelt (readFloat? (numeralOctets bytes))
  | .decimal (.infinity negative) => .ok (.infinity negative)
  | .decimal (.nan false _ _) => .ok (.nan none)
  | .decimal (.nan true _ _) => .error .nanToFloat
  | .decimal (.finite negative coefficient exponent) => .ok (Double.ofLiteral ⟨negative, coefficient, exponent⟩)
  | v =>
    match v.numeral?, v.text? with
    | some ⟨.finite q, _⟩, _ => floatOfRat q
    | _, some s => spelt (readFloat? s.toList)
    | _, _ => .error .unsupported
where
  /-- The double of a text, or the complaint about it. -/
  spelt : Option Double → Except Fault Double
    | some x => .ok x
    | none => .error (.notAFloat v.display)

/-- How much a complaint about the spelling of an integer shows of it. -/
def shownLimit : Nat := 200

/-- The start of the written form of what should spell an integer. Of octets only as many are written. -/
def shownNumeral : Value → String
  | .octets bytes => cut (.octets (bytes.take shownLimit))
  | v => cut v
where
  /-- The written form up to the limit. -/
  cut (v : Value) : String := String.ofList (v.display.toList.take shownLimit)

/-- The integer next to a number on the side of zero. -/
def truncate (q : Rat) : Int := q.num.tdiv q.den

/-- The integer that a value converts to. -/
def toInt (v : Value) : Except Fault Int :=
  match v with
  | .float (.nan _) => .error (.nanToInteger false)
  | .decimal (.nan _ _ _) => .error (.nanToInteger true)
  | .float (.infinity _) | .decimal (.infinity _) => .error .overflow
  | .complex _ _ => .error .unsupported
  | .octets bytes => spelt (readInt? (numeralOctets bytes))
  | v =>
    match v.numeral?, v.text? with
    | some ⟨.finite q, _⟩, _ => .ok (truncate q)
    | _, some s => spelt (readInt? s.toList)
    | _, _ => .error .unsupported
where
  /-- The integer of a text, or the complaint about it. -/
  spelt : Option (Except Nat Int) → Except Fault Int
    | some (.ok n) => .ok n
    | some (.error count) => .error (.tooManyDigits count)
    | none => .error (.notAnInteger v.shownNumeral)

/-- The square of the least distance that rounds to no double. -/
def reachSquared : Nat := (Nat.pow 2 1024 - Nat.pow 2 970) * (Nat.pow 2 1024 - Nat.pow 2 970)

/-- Whether a point of the plane is so far from the origin that its distance rounds to no double. -/
def isOutOfReach (re im : Double) : Bool :=
  match re.value, im.value with
  | .finite p, .finite q => decide (mkRat reachSquared 1 ≤ p * p + q * q)
  | _, _ => false

/-- The distance of a number from zero. For a complex number it is known only whether it is zero, which the
number itself tells as well. -/
def magnitude : Value → Except Fault Value
  | .bool b => .ok (.int (if b then 1 else 0))
  | .int n | .derivedInt n | .member _ .integer _ (.int n) => .ok (.int n.natAbs)
  | .float x => .ok (.float x.abs)
  | .fraction q => .ok (.fraction (if q < 0 then -q else q))
  | .decimal d => if d.isSignalling then .error .signalled else .ok (.decimal d)
  | .complex re im => if isOutOfReach re im then .error .overflow else .ok (.complex re im)
  | .missing => .ok .missing
  | _ => .error .unsupported

end Value

/-- The call of a builtin function. -/
def Builtin.apply (function : Builtin) (v : Value) : Except Fault Value :=
  match function with
  | .toInt => v.toInt.map .int
  | .toText => .ok (.text (match v with | .text s | .derivedText s => s | v => v.display))
  | .toBool => v.truth.map .bool
  | .toFloat => v.toFloat.map .float
  | .toList => match v.items? with
    | some items => .ok (.list items)
    | none => .error .unsupported
  | .length => match v.length? with
    | some n => .ok (.int n)
    | none => .error .unsupported
  | .magnitude => v.magnitude
  | .point => .error .unsupported

end RecordSchema
