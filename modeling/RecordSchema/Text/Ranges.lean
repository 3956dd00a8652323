/-! Sets of characters given by closed intervals of code points, the form in which the tables of this
folder are written. -/
namespace RecordSchema.Text

/-- Closed intervals of code points, in ascending order. -/
abbrev Ranges := List (Nat × Nat)

/-- Whether a character lies in one of the intervals. -/
def Ranges.contains (ranges : Ranges) (c : Char) : Bool :=
  ranges.any fun (first, last) => first ≤ c.toNat && c.toNat ≤ last

end RecordSchema.Text
