import RecordSchema.Validation
import RecordSchema.Value.Conversion

/-! Ready-made predicates. What a predicate does is kept apart from the values that mention it: a value holds
its identity, and a catalogue tells the behaviour of each. Some predicates look at how often they have been
called, so a tally of calls is the state of every action. -/
namespace RecordSchema

/-- What a predicate does with the value it is called with. -/
inductive Behaviour where
  /-- Always the same truth value. -/
  | constant (answer : Bool)
  /-- The value itself. -/
  | identity
  /-- Always the same value. -/
  | returns (answer : Value)
  /-- Whether the value is above a bound. -/
  | above (bound : Value)
  /-- Whether the value has so many items. -/
  | lengthIs (length : Value)
  /-- Whether the value converts to a float above zero. -/
  | floatPositive
  /-- Whether the value is a text of digits. -/
  | digits
  /-- Whether the value is the mark of no value. -/
  | isUndefined
  /-- Whether the value is of the kind with a name. -/
  | hasKind (name : String)
  /-- Whether this is one of so many first calls. -/
  | firstCalls (count : Int)
  /-- Whether a validator finds the value valid. -/
  | validUnder (validator : Validator)
  /-- Always an error, with its name and text. -/
  | refuses (error text : String)

/-- How often each callee has been called. -/
abbrev Tally := List (Nat × Nat)

namespace Tally

/-- The count of a callee. -/
def count (tally : Tally) (id : Nat) : Nat := (tally.lookup id).getD 0

/-- The tally after one more call. -/
def bump (tally : Tally) (id : Nat) : Tally := (id, tally.count id + 1) :: tally.filter (·.1 != id)

end Tally

/-- The behaviours of predicates and functions, by identity. -/
abbrev Catalogue := List Behaviour

namespace Behaviour

/-- Whether a value is a text that consists of digits. -/
def isDigits (v : Value) : Bool :=
  match v.text? with
  | some s => !s.isEmpty && s.toList.all Text.isDigit
  | none => false

/-- The answer of an order that may be undetermined. -/
def answer : Option Bool → Value
  | some b => .bool b
  | none => .missing

/-- The answer of a comparison. One without an outcome is a missing cell until its truth is asked for. -/
def comparisonAnswer {σ : Type} : Except Fault Bool → Action σ Value
  | .ok b => pure (.bool b)
  | .error .undetermined => pure .missing
  | .error fault => .fail fault

/-- The answer of a behaviour at its `calls`-th call, given the meaning of the calls that a validator inside
makes. -/
def run (host : Host Tally) (calls : Nat) (v : Value) : Behaviour → Action Tally Value
  | .constant b => pure (.bool b)
  | .identity => pure v
  | .returns w => pure w
  | .above bound => answer <$> .ofExcept (v.above? bound)
  | .lengthIs length => match v.length? with
    | some n => comparisonAnswer ((Value.int n).equal length)
    | none => .fail .unsupported
  | .floatPositive => do
    let x ← .ofExcept v.toFloat
    answer <$> .ofExcept ((Value.float x).above? (.int 0))
  | .digits => pure (.bool (isDigits v))
  | .isUndefined => pure (.bool (v.kind == .undefined))
  | .hasKind name => pure (.bool (v.kind.name == name))
  | .firstCalls count => pure (.bool (calls ≤ count))
  | .validUnder validator => do
    let report ← validator.validate host v
    pure (.bool report.isValid)
  | .refuses error text => .fail (.refused error text)

end Behaviour

namespace Catalogue

/-- The action that counts a call and gives the number of calls so far. -/
def countCall (id : Nat) : Action Tally Nat := fun tally => ⟨.ok (tally.count id + 1), tally.bump id, []⟩

/-- The meaning of calls, where validators inside predicates stand in one another at most `depth` deep. -/
def hostWithin (catalogue : Catalogue) : (depth : Nat) → Host Tally
  | 0, _, _ => .fail .unsupported
  | depth + 1, callee, v => match callee with
    | .builtin function => .ofExcept (function.apply v)
    | .predicate id _ | .function id _ => match catalogue[id]? with
      | none => .fail .unsupported
      | some behaviour => do
        let calls ← countCall id
        behaviour.run (hostWithin catalogue depth) calls v

/-- The meaning of calls under a catalogue. A validator inside a predicate was built before the predicate and
mentions only earlier ones, so the size of the catalogue bounds the depth. -/
def host (catalogue : Catalogue) : Host Tally := hostWithin catalogue (catalogue.length + 1)

end Catalogue
end RecordSchema
