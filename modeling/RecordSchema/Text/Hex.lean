/-! Hexadecimal numerals in lower case, as escapes use them. -/
namespace RecordSchema.Text

/-- The lower-case digit for a number below sixteen. -/
def hexDigit (n : Nat) : Char :=
  if n < 10 then Char.ofNat (48 + n) else Char.ofNat (87 + n)

/-- The last `width` hexadecimal digits of a number, leading zeros included. -/
def hex : (width : Nat) → Nat → List Char
  | 0, _ => []
  | width + 1, n => hex width (n / 16) ++ [hexDigit (n % 16)]

/-- The value of a hexadecimal digit in either case. -/
def hexValue? (c : Char) : Option Nat :=
  if '0' ≤ c && c ≤ '9' then some (c.toNat - 48)
  else if 'a' ≤ c && c ≤ 'f' then some (c.toNat - 87)
  else if 'A' ≤ c && c ≤ 'F' then some (c.toNat - 55)
  else none

/-- The octets that a text of hexadecimal digit pairs spells. -/
def unhex? : List Char → Option (List UInt8)
  | [] => some []
  | [_] => none
  | high :: low :: rest => do
    let h ← hexValue? high
    let l ← hexValue? low
    let octets ← unhex? rest
    return UInt8.ofNat (16 * h + l) :: octets

/-- The digit pairs that spell a list of octets. -/
def hexOctets (octets : List UInt8) : List Char := octets.flatMap fun octet => hex 2 octet.toNat

end RecordSchema.Text
