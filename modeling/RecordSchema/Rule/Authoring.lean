import RecordSchema.Rule

/-! Authored schemas. A schema is written as a mapping from keys to authored rules: a type tag, something to
call, an enumeration class, a mapping with the key `enum` or `itemType`, a list of rules of which all must
pass, or a mapping that is a schema itself. Every authored value stands for one rule object; nothing is
refused here, and what fits no form stands for an unrecognized rule. -/
namespace RecordSchema

/-- The key of a mapping that lists the literals of an enumeration. -/
def enumKey : String := "enum"

/-- The key of a mapping that holds the item rule of an array. -/
def itemTypeKey : String := "itemType"

namespace Value

/-- The literals that an enumeration lists. A class gives the values of its members and the members
themselves, a mapping its values, a list, tuple or set its items. -/
def literals? : Value → Option (List Value)
  | .enumClass owner base members => some (members.map (·.2) ++ classMembers owner base members)
  | .mapping _ entries => some (entries.map (·.2))
  | .list items | .tuple items | .named _ items | .set _ items => some items
  | _ => none

/-- The object of an authored mapping, given the objects of its values. -/
def mappingObject (kind : MappingKind) (entries objects : List (String × Value)) : Value :=
  match entries.lookup enumKey, objects.lookup itemTypeKey with
  | some listed, _ =>
    match listed.literals? with
    | some literals => .rule .enumeration (.tuple literals)
    | none => .rule .unrecognized (.mapping kind entries)
  | none, some item => .rule .array item
  | none, none => .rule .nested (.mapping .readOnly objects)

mutual
/-- The rule object that an authored value stands for. -/
def ruleObject : Value → Value
  | .rule kind part => .rule kind part
  | .text s => .rule .primitive (.text s)
  | .derivedText s => .rule .primitive (.derivedText s)
  | .member owner .text name value => .rule .primitive (.member owner .text name value)
  | .enumClass owner base members =>
    .rule .enumeration (.tuple (members.map (·.2) ++ classMembers owner base members))
  | .callable callee => .rule .predicate (.callable callee)
  | .mapping kind entries => mappingObject kind entries (ruleEntries entries)
  | .list items => .rule .composite (.tuple (ruleObjects items))
  | .tuple items => .rule .composite (.tuple (ruleObjects items))
  | .named _ items => .rule .composite (.tuple (ruleObjects items))
  | v => .rule .unrecognized v
termination_by structural v => v

/-- The rule objects that authored values stand for. -/
def ruleObjects : List Value → List Value
  | [] => []
  | v :: vs => v.ruleObject :: ruleObjects vs
termination_by structural vs => vs

/-- The rule objects that the authored values under keys stand for. -/
def ruleEntries : List (String × Value) → List (String × Value)
  | [] => []
  | (key, v) :: rest => (key, v.ruleObject) :: ruleEntries rest
termination_by structural entries => entries
end

/-- The fields of an authored schema as rule objects. Only a mapping has fields. -/
def schemaObjects (authored : Value) : Except Fault (List (String × Value)) :=
  match authored.entries? with
  | some entries => .ok (ruleEntries entries)
  | none => .error .notAMapping

end Value

/-- The rule that an authored value stands for. -/
def Rule.ofAuthored (authored : Value) : Rule := .ofObject authored.ruleObject

/-- The schema that an authored mapping stands for. -/
def Schema.ofAuthored (authored : Value) : Except Fault Schema := authored.schemaObjects.map Rule.ofFields

end RecordSchema
