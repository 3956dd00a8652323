import RecordSchema.Number.Literal

/-! Double-precision numbers as exact data: a sign, a significand and a power of two. Reading rounds to the
nearest double, a tie to the even significand, in exact arithmetic. -/
namespace RecordSchema.Number

/-- A double: `± significand · 2 ^ exponent`, an infinity, or no number. What is no number is not known by its
value, so `shared` names the object where one and the same may be met again. -/
inductive Double where
  | nan (shared : Option Nat)
  | infinity (negative : Bool)
  | finite (negative : Bool) (significand : Nat) (exponent : Int)
  deriving DecidableEq, Repr

/-- A point of the extended real line, or no number. -/
inductive Extended where
  | nan
  | infinity (negative : Bool)
  | finite (value : Rat)
  deriving DecidableEq

namespace Extended

/-- Equality of numbers: what is no number equals nothing, itself included. -/
def equal : Extended → Extended → Bool
  | .finite p, .finite q => p == q
  | .infinity a, .infinity b => a == b
  | _, _ => false

/-- Strict order of numbers: what is no number is below nothing and above nothing. -/
def less : Extended → Extended → Bool
  | .finite p, .finite q => decide (p < q)
  | .infinity a, .infinity b => a && !b
  | .infinity a, .finite _ => a
  | .finite _, .infinity b => !b
  | _, _ => false

/-- Whether this is no number. -/
def isNaN : Extended → Bool
  | .nan => true
  | _ => false

end Extended

namespace Double

/-- Numerator and denominator of `value · 2 ^ (-exponent)`, for `value = num / den`. -/
def scaled (num den : Nat) (exponent : Int) : Nat × Nat :=
  if exponent < 0 then (num * Nat.pow 2 exponent.natAbs, den) else (num, den * Nat.pow 2 exponent.natAbs)

/-- The integer nearest to `num / den`, a half going to the even neighbour. -/
def roundHalfEven (num den : Nat) : Nat :=
  let quotient := num / den
  let twice := 2 * (num % den)
  if twice < den then quotient
  else if den < twice then quotient + 1
  else quotient + quotient % 2

/-- The exponent at which `num / den` has a significand of 53 bits, but at least that of the subnormal
numbers. -/
def exponentFor (num den : Nat) : Int :=
  let guess : Int := (num.log2 : Int) - den.log2 - 53
  let (n, d) := scaled num den guess
  let exact := if n / d < Nat.pow 2 53 then guess else guess + 1
  if exact < -1074 then -1074 else exact

/-- The double nearest to `± num / den`. -/
def ofRatio (negative : Bool) (num den : Nat) : Double :=
  if num = 0 then .finite negative 0 0
  else
    let exponent := exponentFor num den
    let (n, d) := scaled num den exponent
    let significand := roundHalfEven n d
    let (significand, exponent) :=
      if significand = Nat.pow 2 53 then (Nat.pow 2 52, exponent + 1) else (significand, exponent)
    if 971 < exponent then .infinity negative else .finite negative significand exponent

/-- The double nearest to a written number. Exponents far outside the range of doubles are settled without
computing the power. -/
def ofLiteral (literal : Literal) : Double :=
  let ⟨negative, coefficient, exponent⟩ := literal
  if coefficient = 0 then .finite negative 0 0
  else if 400 < exponent then .infinity negative
  else if exponent + coefficient.log2 < -400 then .finite negative 0 0
  else if exponent < 0 then ofRatio negative coefficient (Nat.pow 10 exponent.natAbs)
  else ofRatio negative (coefficient * Nat.pow 10 exponent.natAbs) 1

/-- The exact value of a double. -/
def value : Double → Extended
  | .nan _ => .nan
  | .infinity negative => .infinity negative
  | .finite negative significand exponent =>
    let size : Rat :=
      if exponent < 0 then mkRat significand (Nat.pow 2 exponent.natAbs)
      else (significand * Nat.pow 2 exponent.natAbs : Nat)
    .finite (if negative then -size else size)

/-- Whether a double is a zero of either sign. -/
def isZero : Double → Bool
  | .finite _ 0 _ => true
  | _ => false

/-- Whether a double carries a minus sign; what is no number carries none. -/
def isNegative : Double → Bool
  | .finite negative _ _ => negative
  | .infinity negative => negative
  | .nan _ => false

/-- Whether this is no number. -/
def isNaN : Double → Bool
  | .nan _ => true
  | _ => false

/-- Whether this is no number, but an object that may be met again. -/
def isShared : Double → Bool
  | .nan (some _) => true
  | _ => false

/-- The double with the sign taken off. -/
def abs : Double → Double
  | .finite _ significand exponent => .finite false significand exponent
  | .infinity _ => .infinity false
  | .nan _ => .nan none

end Double
end RecordSchema.Number
