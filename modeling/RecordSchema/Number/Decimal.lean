import RecordSchema.Number.Double

/-! Decimal floating-point numbers: a coefficient with its decimal exponent, so that `1.5` and `1.50` are
two representations of one number. What is no number is quiet or signalling: a signalling one refuses every
comparison with a number. -/
namespace RecordSchema.Number

/-- A decimal: `± coefficient · 10 ^ exponent`, an infinity, or no number, in which case `shared` names the object
where one and the same may be met again. -/
inductive Decimal where
  | nan (signalling negative : Bool) (shared : Option Nat)
  | infinity (negative : Bool)
  | finite (negative : Bool) (coefficient : Nat) (exponent : Int)
  deriving DecidableEq, Repr

namespace Decimal

/-- Reads a decimal; the words for an infinity and for no number stand in any case. -/
def read? (text : String) : Option Decimal :=
  let (negative, unsigned) := readSign text.toList
  let word := unsigned.map Char.toLower
  if word = "inf".toList || word = "infinity".toList then some (.infinity negative)
  else if word = "nan".toList then some (.nan false negative none)
  else if word = "snan".toList then some (.nan true negative none)
  else (Literal.read? text.toList).map fun l => .finite l.negative l.coefficient l.exponent

/-- The exact value of a decimal. -/
def value : Decimal → Extended
  | .nan _ _ _ => .nan
  | .infinity negative => .infinity negative
  | .finite negative coefficient exponent =>
    let size : Rat :=
      if exponent < 0 then mkRat coefficient (Nat.pow 10 exponent.natAbs)
      else (coefficient * Nat.pow 10 exponent.natAbs : Nat)
    .finite (if negative then -size else size)

/-- Whether this is no number and refuses comparisons. -/
def isSignalling : Decimal → Bool
  | .nan signalling _ _ => signalling
  | _ => false

/-- Whether this is no number. -/
def isNaN : Decimal → Bool
  | .nan _ _ _ => true
  | _ => false

/-- Whether this is no number, but an object that may be met again. -/
def isShared : Decimal → Bool
  | .nan _ _ (some _) => true
  | _ => false

/-- Whether a decimal is a zero of either sign. -/
def isZero : Decimal → Bool
  | .finite _ 0 _ => true
  | _ => false

/-- The text of a coefficient and exponent: positional while the exponent is not positive and the leading
digit stands at most six places after the point, else with one digit before the point. -/
def finiteText (coefficient : Nat) (exponent : Int) : List Char :=
  let digits := (toString coefficient).toList
  let left : Int := exponent + digits.length
  let point : Int := if exponent ≤ 0 && -6 < left then left else 1
  let mantissa :=
    if point ≤ 0 then '0' :: '.' :: (List.replicate point.natAbs '0' ++ digits)
    else if digits.length ≤ point.natAbs then digits ++ List.replicate (point.natAbs - digits.length) '0'
    else digits.take point.natAbs ++ '.' :: digits.drop point.natAbs
  if left = point then mantissa
  else
    let power := left - point
    mantissa ++ ['E', if power < 0 then '-' else '+'] ++ (toString power.natAbs).toList

/-- The text of a decimal. -/
def text : Decimal → String
  | .nan signalling negative _ => (if negative then "-" else "") ++ (if signalling then "sNaN" else "NaN")
  | .infinity negative => if negative then "-Infinity" else "Infinity"
  | .finite negative coefficient exponent =>
    String.ofList ((if negative then ['-'] else []) ++ finiteText coefficient exponent)

end Decimal
end RecordSchema.Number
