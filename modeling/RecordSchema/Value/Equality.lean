import RecordSchema.Value.Kind

/-! Equality of values, loose and strict.

Loose equality compares numbers by value across all numeric types, texts across derived types, and
containers by their parts. A comparison may be refused with a fault: one with a missing cell has no truth
value, and a signalling decimal is not to be compared with a number. Parts are compared in order and the
first difference decides, so what would be refused later does no harm. In which order, and which of two
values is asked about the other, is settled by their types. Keys are either the same or not, whatever
their type.

Strict equality compares kinds first, and types where kinds alone are too coarse. It is strict at the top
only: the parts of containers are compared loosely. -/
namespace RecordSchema

/-- Whether mappings of a kind leave a comparison with those of another kind to the latter: plain ones to all
that derive from or stand for plain ones, and views to ordered ones and to other views. -/
def MappingKind.yieldsTo : MappingKind → MappingKind → Bool
  | .plain, .ordered | .plain, .readOnly | .readOnly, .ordered | .readOnly, .readOnly => true
  | _, _ => false

/-- Whether of two mappings the right one is asked in the end, given which one is asked first. -/
def MappingKind.asksRight (turned : Bool) (left right : MappingKind) : Bool :=
  if turned then !right.yieldsTo left else left.yieldsTo right

namespace Value

variable {Key : Type}

/-- Whether two values are one object known by its identity. Inside a container such an object equals
itself, whatever its own notion of equality says. -/
def sameObject : Value Key → Value Key → Bool
  | .missing, .missing => true
  | .missingTime, .missingTime => true
  | .float x, .float y => x.isShared && x == y
  | .decimal d, .decimal e => d.isShared && d == e
  | .complex a b, .complex c d => (a.isShared || b.isShared) && (a == c && b == d)
  | .symbol a, .symbol b => a == b
  | .object a, .object b => a == b
  | .enumClass a _ _, .enumClass b _ _ => a == b
  | .member a _ m _, .member b _ n _ => a == b && m == n
  | .callable a, .callable b => a == b
  | _, _ => false

/-- Whether a comparison with a missing cell has no outcome: so it is for numbers, texts, octets and missing
cells, while everything else merely differs from it. -/
def blursComparison : Value Key → Bool
  | .missing | .octets _ => true
  | v => v.numeral?.isSome || v.text?.isSome

/-- Whether a value is a signalling decimal. -/
def isSignalling : Value Key → Bool
  | .decimal d => d.isSignalling
  | _ => false

/-- Whether a value refuses to be compared with a number. A number off the real line is no matter for
decimals, and merely differs from them. -/
def refuses (v : Value Key) (n : Numeral) : Bool := v.isSignalling && n.im.equal (.finite 0)

/-- Loose equality where neither side is a container. -/
def atomsEqual (left right : Value Key) : Except Fault Bool :=
  match left, right with
  | .missing, v | v, .missing => if v.blursComparison then .error .undetermined else .ok false
  | .null, .null | .undefined, .undefined => .ok true
  | .missingTime, .missingTime => .ok false
  | .octets a, .octets b => .ok (a == b)
  | v, w =>
    match v.numeral?, w.numeral?, v.text?, w.text? with
    | some m, some n, _, _ => if v.refuses n || w.refuses m then .error .signalled else .ok (m.equal n)
    | _, _, some s, some t => .ok (s == t)
    | _, _, _, _ => .ok (v.sameObject w)

/-- The outcome for parts of containers, where an object known by its identity equals itself. -/
def asParts (left right : Value Key) (outcome : Except Fault Bool) : Except Fault Bool :=
  if left.sameObject right then .ok true else outcome

/-- Whether another value equals a part of a container. -/
abbrev PartTest (Key : Type) := Value Key → Except Fault Bool

/-- What comes of several comparisons one after another: the first that finds no equality decides. -/
def firstDifference : List (Except Fault Bool) → Except Fault Bool
  | [] => .ok true
  | .ok true :: rest => firstDifference rest
  | outcome :: _ => outcome

/-- Tests of items in order, up to the end of the shorter list. -/
def inOrder (tests : List (PartTest Key)) (items : List (Value Key)) : Except Fault Bool :=
  firstDifference (List.zipWith (fun test item => test item) tests items)

/-- Tests of the items of tuples. Where one tuple goes on after the other, it is only seen at the end. -/
def placesEqual (tests : List (PartTest Key)) (items : List (Value Key)) : Except Fault Bool :=
  match inOrder tests items with
  | .ok true => .ok (tests.length == items.length)
  | outcome => outcome

/-- Whether every test finds an item. A comparison that is refused finds none. -/
def allFind (tests : List (PartTest Key)) (items : List (Value Key)) : Bool :=
  tests.all fun test => items.any fun item => match test item with
    | .ok found => found
    | .error _ => false

variable [DecidableEq Key]

/-- Tests under keys in their own order, each with the entry under the same key. -/
def entriesPass (tests : List (Key × PartTest Key)) (entries : List (Key × Value Key)) : Except Fault Bool :=
  firstDifference (tests.map fun (key, test) => ((entries.lookup key).map test).getD (.ok false))

/-- The same in the order of the entries. -/
def entriesFound (tests : List (Key × PartTest Key)) (entries : List (Key × Value Key)) : Except Fault Bool :=
  firstDifference (entries.map fun (key, v) => ((tests.lookup key).map (· v)).getD (.ok false))

mutual
/-- Loose equality as the left value is asked about the right one or, where `turned`, the right one about
the left one. -/
def equalAsked (turned : Bool) : Value Key → Value Key → Except Fault Bool
  | .list xs, w => match w with
    | .list ys => if xs.length = ys.length then inOrder (itemTests turned xs) ys else .ok false
    | w => atomsEqual (.list xs) w
  | .tuple xs, w => match w with
    | .tuple ys => placesEqual (itemTests turned xs) ys
    | .named _ ys => placesEqual (itemTests true xs) ys
    | w => atomsEqual (.tuple xs) w
  | .named type xs, w => match w with
    | .tuple ys => placesEqual (itemTests false xs) ys
    | .named _ ys => placesEqual (itemTests turned xs) ys
    | w => atomsEqual (.named type xs) w
  | .set frozen xs, w => match w with
    | .set _ ys => .ok (xs.length == ys.length && allFind (itemTests turned xs) ys)
    | w => atomsEqual (.set frozen xs) w
  | .mapping k xs, w => match w with
    | .mapping l ys =>
      if xs.length = ys.length then
        match (if k.asksRight turned l then entriesFound (entryTests true xs) ys
          else entriesPass (entryTests false xs) ys) with
        | .ok true => .ok (k != .ordered || l != .ordered || xs.map (·.1) == ys.map (·.1))
        | outcome => outcome
      else .ok false
    | w => atomsEqual (.mapping k xs) w
  | .rule k p, w => match w with
    | .rule l q => if k = l then asParts p q (equalAsked turned p q) else .ok false
    | w => atomsEqual (.rule k p) w
  | v, w => atomsEqual v w
termination_by structural v => v

/-- The tests that items are. -/
def itemTests (turned : Bool) : List (Value Key) → List (PartTest Key)
  | [] => []
  | x :: xs => (fun y => asParts x y (equalAsked turned x y)) :: itemTests turned xs
termination_by structural xs => xs

/-- The tests that the values under keys are. -/
def entryTests (turned : Bool) : List (Key × Value Key) → List (Key × PartTest Key)
  | [] => []
  | (key, x) :: xs => (key, fun y => asParts x y (equalAsked turned x y)) :: entryTests turned xs
termination_by structural xs => xs
end

/-- Loose equality. -/
def equal (left right : Value Key) : Except Fault Bool := equalAsked false left right

/-- Strict equality: values of different kinds differ, numbers compare by value, and other values need equal
types before they are compared loosely. -/
def strictEqual (left right : Value Key) : Except Fault Bool :=
  if left.kind ≠ right.kind then .ok false
  else match left.kind with
    | .number => equal left right
    | .undefined | .null => .ok true
    | _ => if left.type ≠ right.type then .ok false else equal left right

/-- Whether a value is strictly equal to one of the literals, which are tried in order up to the first that
is. -/
def isAmong (v : Value Key) : List (Value Key) → Except Fault Bool
  | [] => .ok false
  | literal :: rest =>
    match strictEqual v literal with
    | .ok false => isAmong v rest
    | outcome => outcome

end Value
end RecordSchema
