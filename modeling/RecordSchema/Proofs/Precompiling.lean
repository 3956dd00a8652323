import RecordSchema.Proofs.EntryLists
import RecordSchema.Validation

/-! Schemas that are rule objects in part. An author may put a rule object wherever an
authored rule may stand, such as one taken from another schema. The object that an
authored value stands for is found by a row of tests on its shape, so it has to be seen
that an object in a place of the value never makes the value itself pass another test. -/
namespace RecordSchema

/-- A step from an authored rule to a rule in it. -/
inductive RuleStep where
  /-- To the value under a key of a mapping. -/
  | key (key : String)
  /-- To a member of a composite. -/
  | member (index : Nat)
  deriving DecidableEq, Repr

namespace Value

/-- The keys of a mapping under which rules stand: none if it lists literals, and one if
it has an item rule. -/
def holdsRule (entries : List (String × Value)) (key : String) : Bool :=
  (entries.lookup enumKey).isNone && ((entries.lookup itemTypeKey).isNone || key == itemTypeKey)

mutual
/-- An authored rule in which the rules at chosen places are replaced by the objects that
they stand for. A place is named by the steps that lead to it. -/
def precompiled (chosen : List RuleStep → Bool) : Value → Value
  | .mapping kind entries => .mapping kind (precompiledEntries chosen (holdsRule entries) entries)
  | .list items => .list (precompiledItems chosen 0 items)
  | .tuple items => .tuple (precompiledItems chosen 0 items)
  | .named type items => .named type (precompiledItems chosen 0 items)
  | v => v
termination_by structural v => v

/-- The members of a composite from an index on, of which some are replaced. -/
def precompiledItems (chosen : List RuleStep → Bool) (index : Nat) : List Value → List Value
  | [] => []
  | v :: vs =>
    (if chosen [.member index] then v.ruleObject else v.precompiled (chosen <| .member index :: ·)) ::
      precompiledItems chosen (index + 1) vs
termination_by structural items => items

/-- The entries of a mapping, of which some are replaced where rules stand. -/
def precompiledEntries (chosen : List RuleStep → Bool) (places : String → Bool) :
    List (String × Value) → List (String × Value)
  | [] => []
  | (key, v) :: rest =>
    (key, if !places key then v else if chosen [.key key] then v.ruleObject
      else v.precompiled (chosen <| .key key :: ·)) :: precompiledEntries chosen places rest
termination_by structural entries => entries
end

end Value

namespace Precompiling

variable {chosen : List RuleStep → Bool} {places : String → Bool} {entries : List (String × Value)} {key : String}

/-- Whatever an authored value is, it stands for a rule object. -/
theorem stands_for_object (v : Value) : ∃ kind part, v.ruleObject = .rule kind part := by
  cases v with
  | mapping kind entries =>
    rw [Value.ruleObject, Value.mappingObject]
    split
    · split <;> exact ⟨_, _, rfl⟩
    · exact ⟨_, _, rfl⟩
    · exact ⟨_, _, rfl⟩
  | member owner base name value => cases base <;> exact ⟨_, _, rfl⟩
  | _ => exact ⟨_, _, rfl⟩

/-- A rule object stands for itself. -/
@[simp] theorem rule_object_again (v : Value) : v.ruleObject.ruleObject = v.ruleObject := by
  obtain ⟨kind, part, object⟩ := stands_for_object v
  rw [object, Value.ruleObject]

theorem rule_entries_again (entries : List (String × Value)) :
    Value.ruleEntries (Value.ruleEntries entries) = Value.ruleEntries entries := by
  induction entries with
  | nil => rfl
  | cons entry rest ih =>
    obtain ⟨key, v⟩ := entry
    rw [Value.ruleEntries, Value.ruleEntries, rule_object_again, ih]

theorem precompiled_keys (entries : List (String × Value)) :
    (Value.precompiledEntries chosen places entries).map (·.1) = entries.map (·.1) := by
  induction entries with
  | nil => rfl
  | cons entry rest ih =>
    obtain ⟨key, v⟩ := entry
    rw [Value.precompiledEntries, List.map_cons, List.map_cons, ih]

theorem precompiled_nowhere (entries : List (String × Value)) :
    Value.precompiledEntries chosen (fun _ => false) entries = entries := by
  induction entries with
  | nil => rfl
  | cons entry rest ih =>
    obtain ⟨key, v⟩ := entry
    rw [Value.precompiledEntries, ih]
    rfl

/-- A mapping stays the kind of rule that it is: the literals it lists are left alone,
and neither of its telling keys comes or goes. -/
theorem mapping_object_kept (kind : MappingKind)
    (objects : Value.ruleEntries (Value.precompiledEntries chosen (Value.holdsRule entries) entries) =
      Value.ruleEntries entries) :
    ((Value.mapping kind entries).precompiled chosen).ruleObject = (Value.mapping kind entries).ruleObject := by
  rw [Value.precompiled, Value.ruleObject, Value.ruleObject, objects]
  cases listed : entries.lookup enumKey with
  | some literals =>
    have nowhere : Value.holdsRule entries = fun _ => false := by
      funext key
      simp [Value.holdsRule, listed]
    rw [nowhere, precompiled_nowhere]
  | none =>
    have unlisted : (Value.precompiledEntries chosen (Value.holdsRule entries) entries).lookup enumKey = none := by
      rw [Entries.lookup_eq_none, precompiled_keys]
      exact Entries.lookup_eq_none.mp listed
    simp only [Value.mappingObject, listed, unlisted]
    cases (Value.ruleEntries entries).lookup itemTypeKey <;> rfl

/-- A rule in a place and what may be put there instead stand for one object. -/
theorem place_kept {v inner : Value} (here : Bool) (inside : inner.ruleObject = v.ruleObject) :
    (if here then v.ruleObject else inner).ruleObject = v.ruleObject := by
  cases here with
  | true => exact rule_object_again v
  | false => exact inside

mutual
/-- An authored rule with objects in some of its places stands for the same object. -/
theorem rule_object_kept (chosen : List RuleStep → Bool) (v : Value) :
    (v.precompiled chosen).ruleObject = v.ruleObject := by
  cases v with
  | mapping kind entries => exact mapping_object_kept kind (rule_entries_kept chosen _ entries)
  | list items => rw [Value.precompiled, Value.ruleObject, Value.ruleObject, rule_objects_kept chosen 0 items]
  | tuple items => rw [Value.precompiled, Value.ruleObject, Value.ruleObject, rule_objects_kept chosen 0 items]
  | named type items => rw [Value.precompiled, Value.ruleObject, Value.ruleObject, rule_objects_kept chosen 0 items]
  | _ => rfl

theorem rule_objects_kept (chosen : List RuleStep → Bool) (index : Nat) :
    ∀ items, Value.ruleObjects (Value.precompiledItems chosen index items) = Value.ruleObjects items
  | [] => rfl
  | v :: vs => by
    rw [Value.precompiledItems, Value.ruleObjects, Value.ruleObjects, rule_objects_kept chosen (index + 1) vs]
    rw [place_kept (chosen [.member index]) (rule_object_kept _ v)]

theorem rule_entries_kept (chosen : List RuleStep → Bool) (places : String → Bool) :
    ∀ entries, Value.ruleEntries (Value.precompiledEntries chosen places entries) = Value.ruleEntries entries
  | [] => rfl
  | (key, v) :: rest => by
    rw [Value.precompiledEntries, Value.ruleEntries, Value.ruleEntries, rule_entries_kept chosen places rest]
    split
    · rfl
    · rw [place_kept (chosen [.key key]) (rule_object_kept _ v)]
end

/-- Rule objects among authored rules make no difference. Take any authored rule, or any
mapping as a schema, and any set of places where rules stand in it: the values of a
mapping that is a schema, the item rule of a mapping that lists no literals, the members
of a composite, at any depth. With the rules at these places replaced by the objects they
stand for, the rule stands for the same object, and the schema has the same validator,
which so judges alike from then on. In particular a schema that consists of nothing but
rule objects stands for itself. -/
theorem precompiling_unseen (chosen : List RuleStep → Bool) :
    (∀ v : Value, (v.precompiled chosen).ruleObject = v.ruleObject) ∧
    (∀ (kind : MappingKind) (entries : List (String × Value)) (logger : String), ∃ validator,
      Validator.ofAuthored (.mapping kind entries) logger = .ok validator ∧
      Validator.ofAuthored (.mapping kind (Value.precompiledEntries chosen (fun _ => true) entries)) logger =
        .ok validator) ∧
    ∀ (kind other : MappingKind) (entries : List (String × Value)), ∃ objects,
      (Value.mapping kind entries).schemaObjects = .ok objects ∧
      (Value.mapping other objects).schemaObjects = .ok objects := by
  refine ⟨rule_object_kept chosen, fun kind entries logger => ?_, fun kind other entries => ?_⟩
  · refine ⟨⟨Value.ruleEntries entries, logger⟩, rfl, ?_⟩
    rw [← rule_entries_kept chosen (fun _ => true) entries]
    rfl
  · refine ⟨Value.ruleEntries entries, rfl, ?_⟩
    exact congrArg Except.ok (rule_entries_again entries)

/-- The item rule of a list of tags, one of two members: an object in its place, and no
object in that of the literals, which is no place for a rule. -/
example :
    let tags := Value.mapping .plain [(itemTypeKey, .text "string"), ("note", .text "string")]
    let size := Value.mapping .plain [(enumKey, .list [.text "s"])]
    (Value.list [tags, size]).precompiled (fun steps => steps.length == 2) =
      .list [.mapping .plain [(itemTypeKey, .rule .primitive (.text "string")), ("note", .text "string")], size] := by
  rfl

end Precompiling
end RecordSchema
