import RecordSchema.Value.Equality

/-! Rules: what a schema asks of the value under each key.

A rule is read off a rule object (`Rule.ofObject`). Rule objects that come from an authored schema are sound
in every part; objects built by hand may hold anything, and what such a part can still mean is kept: a part
that stands where a rule belongs is a foreign one, and a part that its kind of rule cannot use at all makes
the rule a broken one, whose use is a fault. -/
namespace RecordSchema

/-- A rule. -/
inductive Rule where
  /-- The value is of the type that a tag names. -/
  | primitive (tag : Tag)
  /-- The value makes a call give something true. -/
  | predicate (callee : Callable)
  /-- The value is strictly equal to one of the literals. -/
  | enumeration (literals : List Value)
  /-- The value is an array, every element of which passes the item rule. -/
  | array (item : Rule)
  /-- The value passes every member rule. -/
  | composite (members : List Rule)
  /-- The value is a record of its own, judged field by field. -/
  | nested (fields : List (String × Rule))
  /-- An authored value that is no rule; it never passes. -/
  | unrecognized (raw : Value)
  /-- A value in the place of a rule object. -/
  | foreign (part : Value)
  /-- A rule object whose part is of no use to its kind. -/
  | broken (kind : RuleKind) (fault : Fault)

/-- A schema: the rules of the fields of a record, in order. -/
abbrev Schema := List (String × Rule)

namespace Rule

/-- The kind of the rule object, unless a foreign value stands in its place. -/
def kind? : Rule → Option RuleKind
  | .primitive _ => some .primitive
  | .predicate _ => some .predicate
  | .enumeration _ => some .enumeration
  | .array _ => some .array
  | .composite _ => some .composite
  | .nested _ => some .nested
  | .unrecognized _ => some .unrecognized
  | .foreign _ => none
  | .broken kind _ => some kind

/-- The name of the type of what stands in the place of a rule. -/
def typeName : Rule → String
  | .foreign part => part.typeName
  | rule => ((rule.kind?).map RuleKind.typeName).getD ""

/-- Rules that look at one value as a whole. Only these may be the item rule of an array. -/
def isScalar (rule : Rule) : Bool :=
  rule.kind? == some .primitive || rule.kind? == some .predicate || rule.kind? == some .enumeration

/-- Scalar rules and array rules. Only these may be members of a composite. -/
def isSimple (rule : Rule) : Bool := rule.isScalar || rule.kind? == some .array

end Rule

namespace Value

mutual
/-- Whether a value may be looked up in a table of names: nothing in it can change or is a signalling decimal. -/
def isFixed : Value → Bool
  | .list _ | .mapping _ _ => false
  | .decimal d => !d.isSignalling
  | .set frozen items => frozen && allFixed items
  | .tuple items | .named _ items => allFixed items
  | .rule _ part => part.isFixed
  | _ => true
termination_by structural v => v

/-- Whether all of the values may be looked up in a table of names. -/
def allFixed : List Value → Bool
  | [] => true
  | v :: vs => v.isFixed && allFixed vs
termination_by structural vs => vs
end

/-- The tag that the part of a rule object gives. A value other than a text names no type. -/
def tag (part : Value) : Except Fault Tag :=
  match part.text? with
  | some name => .ok (.ofName name)
  | none => if part.isFixed then .ok .unknown else .error .unsupported

end Value

namespace Rule

/-- The rule of a tag part. -/
def ofTagPart (part : Value) : Rule :=
  match part, part.tag with
  | .missing, _ => .primitive .undetermined
  | _, .ok tag => .primitive tag
  | _, .error fault => .broken .primitive fault

/-- The rule of the part that holds the literals of an enumeration. -/
def ofLiteralsPart (part : Value) : Rule :=
  match part.items? with
  | some literals => .enumeration literals
  | none => .broken .enumeration .unsupported

/-- The rule of the part that holds the members of a composite, when no rule object is among what a walk
through it meets. -/
def ofMembersPart (part : Value) : Rule :=
  match part.items? with
  | some items => .composite (items.map .foreign)
  | none => .broken .composite .unsupported

/-- The rule of an object of a kind with a part, for the kinds and parts that hold no other rules. -/
def ofPlainPart : RuleKind → Value → Rule
  | .primitive, part => ofTagPart part
  | .predicate, .callable callee => .predicate callee
  | .predicate, _ => .broken .predicate .unsupported
  | .enumeration, part => ofLiteralsPart part
  | .array, part => .array (.foreign part)
  | .composite, part => ofMembersPart part
  | .nested, _ => .broken .nested .notAMapping
  | .unrecognized, raw => .unrecognized raw

mutual
/-- The rule that an object is. -/
def ofObject : Value → Rule
  | .rule .array part => .array (ofObject part)
  | .rule .composite (.tuple items) => .composite (ofObjects items)
  | .rule .composite (.list items) => .composite (ofObjects items)
  | .rule .composite (.set _ items) => .composite (ofObjects items)
  | .rule .composite (.named _ items) => .composite (ofObjects items)
  | .rule .nested (.mapping _ entries) => .nested (ofFields entries)
  | .rule kind part => ofPlainPart kind part
  | v => .foreign v
termination_by structural v => v

/-- The rules that objects are. -/
def ofObjects : List Value → List Rule
  | [] => []
  | v :: vs => ofObject v :: ofObjects vs
termination_by structural vs => vs

/-- The rules that the objects under keys are. -/
def ofFields : List (String × Value) → Schema
  | [] => []
  | (key, v) :: rest => (key, ofObject v) :: ofFields rest
termination_by structural fields => fields
end

end Rule
end RecordSchema
