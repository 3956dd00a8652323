/-! Halves of surrogate pairs. Half a pair is no character, but an escape in JSON may spell one. A text keeps
it as a stand-in, a private-use character of the last plane, and whatever escapes the text writes the half
again. -/
namespace RecordSchema.Text

/-- How far a stand-in lies above the half. -/
def standInOffset : Nat := 0x100000

/-- The character that stands in for half a pair. -/
def standIn (half : Nat) : Char := Char.ofNat (standInOffset + half)

/-- The half that a character stands in for. -/
def halfOf? (c : Char) : Option Nat :=
  if 0x10D800 ≤ c.toNat && c.toNat < 0x10E000 then some (c.toNat - standInOffset) else none

/-- Whether a half comes first in a pair. -/
def isHighHalf (half : Nat) : Bool := 0xD800 ≤ half && half < 0xDC00

/-- Whether a half comes second in a pair. -/
def isLowHalf (half : Nat) : Bool := 0xDC00 ≤ half && half < 0xE000

end RecordSchema.Text
