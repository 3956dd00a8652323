import RecordSchema.Value.Equality

/-! Truth of values, and the order of numbers that predicates ask about. -/
namespace RecordSchema
namespace Value

/-- Whether a value counts as true. Nothing, no value, zeros of every numeric type and empty texts, octets
and containers count as false; the truth of a missing cell is not determined. -/
def truth? : Value → Option Bool
  | .missing => none
  | .null | .undefined => some false
  | .bool b => some b
  | .int n | .derivedInt n => some (n != 0)
  | .float x => some (!x.isZero)
  | .fraction q => some (q != 0)
  | .decimal d => some (!d.isZero)
  | .complex re im => some (!(re.isZero && im.isZero))
  | .text s | .derivedText s => some (!s.isEmpty)
  | .octets bytes => some (!bytes.isEmpty)
  | .list items | .tuple items | .named _ items | .set _ items => some (!items.isEmpty)
  | .mapping _ entries => some (!entries.isEmpty)
  | .member _ .integer _ (.int n) | .member _ .flag _ (.int n) => some (n != 0)
  | .member _ .text _ (.text s) => some (!s.isEmpty)
  | _ => some true

/-- The truth of a value, or the fault of asking for it. -/
def truth (v : Value) : Except Fault Bool :=
  match v.truth? with
  | some b => .ok b
  | none => .error .undetermined

/-- Whether a value is a decimal. -/
def isDecimal : Value → Bool
  | .decimal _ => true
  | _ => false

/-- Whether a value is above another one. Numbers of the ordered types compare by value and texts by code
points; a comparison with a missing cell has no outcome, and missing points in time are not above one
another. What is no number is above nothing, but decimals refuse to be compared with it. -/
def above? (left right : Value) : Except Fault (Option Bool) :=
  match left, right with
  | .complex _ _, _ | _, .complex _ _ => .error .unsupported
  | .missing, v | v, .missing => if v.blursComparison then .ok none else .error .unsupported
  | .missingTime, .missingTime => .ok (some false)
  | v, w =>
    match v.numeral?, w.numeral?, v.text?, w.text? with
    | some m, some n, _, _ =>
      if (v.isDecimal || w.isDecimal) && (m.re.isNaN || n.re.isNaN) then .error .unordered
      else .ok (some (n.re.less m.re))
    | _, _, some s, some t => .ok (some (decide (t < s)))
    | _, _, _, _ => .error .unsupported

/-- How many items a value has. -/
def length? : Value → Option Nat
  | .member _ .text _ (.text s) => some s.length
  | v => v.items?.map List.length

end Value
end RecordSchema
