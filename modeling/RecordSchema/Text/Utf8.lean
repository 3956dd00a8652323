import RecordSchema.Text.Hex

/-! UTF-8. A decoder reads one octet at a time and stops at the first one that no encoded text can hold at
its place, so its error names the shortest faulty stretch. -/
namespace RecordSchema.Text

/-- Why octets are not UTF-8. -/
inductive Utf8Fault where
  /-- No character starts with this octet. -/
  | startOctet
  /-- A character is broken off by an octet that cannot continue it. -/
  | continuationOctet
  /-- The octets end inside a character. -/
  | endOfData
  deriving DecidableEq, Repr

/-- A faulty stretch of octets: its cause, its offset, its length and its first octet. -/
structure Utf8Error where
  fault : Utf8Fault
  offset : Nat
  length : Nat
  octet : UInt8
  deriving DecidableEq, Repr

/-- The words for a fault. -/
def Utf8Fault.words : Utf8Fault → String
  | .startOctet => "invalid start byte"
  | .continuationOctet => "invalid continuation byte"
  | .endOfData => "unexpected end of data"

/-- The text of an error. A single octet is shown, a longer stretch is given by its first and last offset. -/
def Utf8Error.message (error : Utf8Error) : String :=
  let place :=
    if error.length = 1 then
      s!"byte 0x{String.ofList (hex 2 error.octet.toNat)} in position {error.offset}"
    else s!"bytes in position {error.offset}-{error.offset + error.length - 1}"
  s!"'utf-8' codec can't decode {place}: {error.fault.words}"

/-- A character of which some octets have been read. -/
structure Utf8Partial where
  /-- Its first octet. -/
  octet : UInt8
  /-- How many octets have been read. -/
  length : Nat
  /-- The bits read so far. -/
  bits : Nat
  /-- How many octets are still owed. -/
  owed : Nat
  /-- The least and the greatest value of the next octet. -/
  low : Nat
  high : Nat

/-- What a first octet announces: a whole character or a partial one. -/
def utf8Start (octet : UInt8) : Option (Char ⊕ Utf8Partial) :=
  let n := octet.toNat
  if n < 0x80 then some (.inl (Char.ofNat n))
  else if n < 0xC2 then none
  else if n < 0xE0 then some (.inr ⟨octet, 1, n - 0xC0, 1, 0x80, 0xBF⟩)
  else if n < 0xF0 then
    some (.inr ⟨octet, 1, n - 0xE0, 2, if n = 0xE0 then 0xA0 else 0x80, if n = 0xED then 0x9F else 0xBF⟩)
  else if n < 0xF5 then
    some (.inr ⟨octet, 1, n - 0xF0, 3, if n = 0xF0 then 0x90 else 0x80, if n = 0xF4 then 0x8F else 0xBF⟩)
  else none

/-- Decodes octets of which the first has the given offset, after the octets of a partial character. -/
def utf8DecodeFrom (offset : Nat) : Option Utf8Partial → List UInt8 → Except Utf8Error (List Char)
  | none, [] => .ok []
  | some p, [] => .error ⟨.endOfData, offset - p.length, p.length, p.octet⟩
  | none, octet :: rest =>
    match utf8Start octet with
    | none => .error ⟨.startOctet, offset, 1, octet⟩
    | some (.inl c) => (utf8DecodeFrom (offset + 1) none rest).map (c :: ·)
    | some (.inr p) => utf8DecodeFrom (offset + 1) (some p) rest
  | some p, octet :: rest =>
    let n := octet.toNat
    if p.low ≤ n && n ≤ p.high then
      let bits := 64 * p.bits + (n - 0x80)
      if p.owed = 1 then (utf8DecodeFrom (offset + 1) none rest).map (Char.ofNat bits :: ·)
      else utf8DecodeFrom (offset + 1) (some ⟨p.octet, p.length + 1, bits, p.owed - 1, 0x80, 0xBF⟩) rest
    else .error ⟨.continuationOctet, offset - p.length, p.length, p.octet⟩

/-- The text that octets encode. -/
def utf8Decode (octets : List UInt8) : Except Utf8Error (List Char) := utf8DecodeFrom 0 none octets

/-- How many octets encode a character. -/
def utf8Size (c : Char) : Nat :=
  if c.toNat < 0x80 then 1 else if c.toNat < 0x800 then 2 else if c.toNat < 0x10000 then 3 else 4

end RecordSchema.Text
