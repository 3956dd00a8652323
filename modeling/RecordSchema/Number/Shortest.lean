import RecordSchema.Number.Double

/-! The shortest text of a double: the fewest digits that read back as the same double and, of those, the
ones nearest to it. -/
namespace RecordSchema.Number

/-- A positive number in decimal, `coefficient · 10 ^ exponent`. -/
structure Digits where
  coefficient : Nat
  exponent : Int
  deriving DecidableEq, Repr

namespace Digits

/-- Whether decimal digits read back as a given positive double. -/
def readsBackAs (digits : Digits) (double : Double) : Bool :=
  Double.ofLiteral ⟨false, digits.coefficient, digits.exponent⟩ == double

/-- Numerator and denominator of `num / den · 10 ^ (-exponent)`. -/
def tenScaled (num den : Nat) (exponent : Int) : Nat × Nat :=
  if exponent < 0 then (num * Nat.pow 10 exponent.natAbs, den) else (num, den * Nat.pow 10 exponent.natAbs)

/-- The exponent of the leading decimal digit of `num / den`, searched upward from a lower bound. -/
def leadingExponent (num den : Nat) : (steps : Nat) → (bound : Int) → Int
  | 0, bound => bound
  | steps + 1, bound =>
    let (n, d) := tenScaled num den (bound + 1)
    if n < d then bound else leadingExponent num den steps (bound + 1)

/-- The neighbours of `num / den` on the grid of multiples of `10 ^ exponent`, the nearer one first; of two
equally near ones the even one is first. -/
def neighbours (num den : Nat) (exponent : Int) : List Digits :=
  let (n, d) := tenScaled num den exponent
  let below := n / d
  let twice := 2 * (n % d)
  if twice < d || (twice == d && below % 2 == 0) then [⟨below, exponent⟩, ⟨below + 1, exponent⟩]
  else [⟨below + 1, exponent⟩, ⟨below, exponent⟩]

/-- The first hit on the grids of one digit, two digits and so on, given the exponent of the grid. -/
def search (double : Double) (num den : Nat) : (grids : Nat) → (exponent : Int) → Option Digits
  | 0, _ => none
  | grids + 1, exponent =>
    match (neighbours num den exponent).find? (·.readsBackAs double) with
    | some digits => some digits
    | none => search double num den grids (exponent - 1)

/-- The digits without zeros at their end. -/
def trim : (steps : Nat) → Digits → Digits
  | 0, digits => digits
  | steps + 1, ⟨coefficient, exponent⟩ =>
    if coefficient ≠ 0 && coefficient % 10 == 0 then trim steps ⟨coefficient / 10, exponent + 1⟩
    else ⟨coefficient, exponent⟩

end Digits

/-- The shortest digits of a positive finite double. Seventeen digits always read back. -/
def Double.shortest (significand : Nat) (exponent : Int) : Digits :=
  let (num, den) :=
    if exponent < 0 then (significand, Nat.pow 2 exponent.natAbs)
    else (significand * Nat.pow 2 exponent.natAbs, 1)
  let lower : Int := ((significand.log2 : Int) + exponent) * 30103 / 100000 - 1
  let leading := Digits.leadingExponent num den 4 lower
  match Digits.search (.finite false significand exponent) num den 17 leading with
  | some digits => digits.trim 20
  | none => ⟨num / den, 0⟩

/-- Digits in positional notation, with a zero on either side of the point where no digit stands. -/
def positional (digits : List Char) (point : Int) : List Char :=
  if point ≤ 0 then '0' :: '.' :: (List.replicate point.natAbs '0' ++ digits)
  else
    let whole := digits.take point.natAbs
    let fraction := digits.drop point.natAbs
    whole ++ List.replicate (point.natAbs - whole.length) '0' ++
      ('.' :: if fraction.isEmpty then ['0'] else fraction)

/-- Digits in exponent notation: one digit before the point, the sign always and at least two digits in the
exponent. -/
def scientific (digits : List Char) (exponent : Int) : List Char :=
  let size := (toString exponent.natAbs).toList
  let mantissa := match digits with
    | first :: second :: rest => first :: '.' :: second :: rest
    | short => short
  mantissa ++ ['e', if exponent < 0 then '-' else '+'] ++ (if size.length < 2 then '0' :: size else size)

/-- The text of a double without its sign. Numbers from `10 ^ (-4)` up to `10 ^ 16` are positional. -/
def Double.magnitudeText : Double → List Char
  | .nan _ => "nan".toList
  | .infinity _ => "inf".toList
  | .finite _ 0 _ => "0.0".toList
  | .finite _ significand exponent =>
    let ⟨coefficient, exponent⟩ := Double.shortest significand exponent
    let digits := (toString coefficient).toList
    let leading := exponent + digits.length - 1
    if -4 ≤ leading && leading < 16 then positional digits (leading + 1) else scientific digits leading

/-- The text of a double. -/
def Double.text (double : Double) : String :=
  String.ofList ((if double.isNegative then ['-'] else []) ++ double.magnitudeText)

end RecordSchema.Number
