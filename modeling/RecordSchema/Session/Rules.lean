import RecordSchema.Rule.Authoring
import RecordSchema.Session.Cell

/-! Rule objects of authored cells. A rule object keeps the literals of an enumeration and the values that
are no rules as they are, labels included, so later changes to them are seen by it; everything else that an
authored cell is made of is read once and forgotten. -/
namespace RecordSchema.Session.Cell

/-- The literals that an enumeration lists. -/
def literals? : Cell → Option (List Cell)
  | .atom v => v.literals?.map (·.map .atom)
  | .mapping _ _ entries | .view entries => some (entries.map (·.2))
  | .list _ items | .tuple items | .named _ items => some items
  | .rule _ _ => none

/-- The rule object of an authored mapping, given the rule objects of its values. -/
def mappingObject (authored : Cell) (entries objects : List (String × Cell)) : Cell :=
  match entries.lookup enumKey, objects.lookup itemTypeKey with
  | some listed, _ => match listed.literals? with
    | some literals => .rule .enumeration (.tuple literals)
    | none => .rule .unrecognized authored
  | none, some item => .rule .array item
  | none, none => .rule .nested (.view objects)

mutual
/-- The rule object that an authored cell stands for. -/
def ruleObject : Cell → Cell
  | .atom v => .atom v.ruleObject
  | .mapping label kind entries =>
    mappingObject (.mapping label kind entries) entries (ruleEntries entries)
  | .view entries => mappingObject (.view entries) entries (ruleEntries entries)
  | .list _ items | .tuple items | .named _ items => .rule .composite (.tuple (ruleObjects items))
  | .rule kind part => .rule kind part
termination_by structural cell => cell

/-- The rule objects that authored cells stand for. -/
def ruleObjects : List Cell → List Cell
  | [] => []
  | cell :: cells => cell.ruleObject :: ruleObjects cells
termination_by structural cells => cells

/-- The rule objects that the authored cells under keys stand for. -/
def ruleEntries : List (String × Cell) → List (String × Cell)
  | [] => []
  | (key, cell) :: rest => (key, cell.ruleObject) :: ruleEntries rest
termination_by structural entries => entries
end

/-- The fields of an authored schema as rule objects. Only a mapping has fields. -/
def schemaObjects? : Cell → Option (List (String × Cell))
  | .mapping _ _ entries | .view entries => some (ruleEntries entries)
  | _ => none

end RecordSchema.Session.Cell
