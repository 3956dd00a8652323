import RecordSchema.Proofs.NestedRecords
import RecordSchema.Proofs.Precompiling

/-! Rule objects wherever rules belong. A rule object built by hand may hold anything, and
whether each part is of use to its kind is a question of its own; what is asked here is only
whether rule objects stand where rules belong. Reading an authored schema puts nothing
else there. It makes rule objects of all that it comes to, and takes those built by hand
as they are, so it is enough that each of these is filled with rule objects. -/
namespace RecordSchema

/-- Whether the part of a rule object of a kind is a place where rules belong. -/
def RuleKind.holdsRules : RuleKind → Bool
  | .array | .composite | .nested => true
  | .primitive | .predicate | .enumeration | .unrecognized => false

/-- A rule object with such objects again wherever rules belong in it: as the item rule of an
array, as the members of a composite, as the fields of a nested rule. Of other parts
nothing is asked. -/
inductive Value.IsRule : Value → Prop where
  | plain {kind : RuleKind} (part : Value) (plain : kind.holdsRules = false) :
      Value.IsRule (.rule kind part)
  | array {item : Value} (formed : Value.IsRule item) : Value.IsRule (.rule .array item)
  | composite {part : Value} {members : List Value} (walked : part.items? = some members)
      (each : ∀ member ∈ members, Value.IsRule member) : Value.IsRule (.rule .composite part)
  | nested (kind : MappingKind) {fields : List (String × Value)} (each : ∀ field ∈ fields, Value.IsRule field.2) :
      Value.IsRule (.rule .nested (.mapping kind fields))

mutual
/-- The rule objects built by hand that reading an authored rule comes to. -/
def Value.handBuilt : Value → List Value
  | .rule kind part => [.rule kind part]
  | .mapping _ entries => Value.handBuiltEntries (Value.holdsRule entries) entries
  | .list items | .tuple items | .named _ items => Value.handBuiltItems items
  | _ => []
termination_by structural v => v

/-- The rule objects built by hand that reading a list of authored rules comes to. -/
def Value.handBuiltItems : List Value → List Value
  | [] => []
  | v :: vs => v.handBuilt ++ Value.handBuiltItems vs
termination_by structural vs => vs

/-- The rule objects built by hand that reading authored rules under keys comes to, where only
some of the keys are those of rules. -/
def Value.handBuiltEntries (places : String → Bool) : List (String × Value) → List Value
  | [] => []
  | (key, v) :: rest => (if places key then v.handBuilt else []) ++ Value.handBuiltEntries places rest
termination_by structural entries => entries
end

/-- The rule objects built by hand that reading an authored schema comes to. Every key of a
schema is that of a rule. -/
def Value.handBuiltFields (entries : List (String × Value)) : List Value :=
  Value.handBuiltEntries (fun _ => true) entries

namespace RuleObjects

/-- A mapping that lists no literals and has no item rule holds rules under all its keys. -/
theorem all_hold_rules {entries : List (String × Value)} (no_enum : entries.lookup enumKey = none)
    (no_item : entries.lookup itemTypeKey = none) (key : String) : Value.holdsRule entries key = true := by
  simp [Value.holdsRule, no_enum, no_item]

/-- What an authored mapping stands for is filled with rule objects if all that stands under
the keys of its rules is. -/
private theorem mapping_formed (kind : MappingKind) (entries : List (String × Value))
    (each : ∀ field ∈ Value.ruleEntries entries, Value.holdsRule entries field.1 = true → field.2.IsRule) :
    (Value.mappingObject kind entries (Value.ruleEntries entries)).IsRule := by
  unfold Value.mappingObject
  split
  · split <;> exact .plain _ rfl
  next item no_enum found =>
    have holds : Value.holdsRule entries itemTypeKey = true := by simp [Value.holdsRule, no_enum]
    exact .array (each _ (Entries.mem_of_lookup found) holds)
  next no_enum absent =>
    have no_item : entries.lookup itemTypeKey = none := by
      rwa [NestedRecords.lookup_of_entries, Option.map_eq_none_iff] at absent
    exact .nested .readOnly fun field among => each field among (all_hold_rules no_enum no_item field.1)

mutual
/-- An authored rule stands for an object filled with rule objects if those built by hand in
it are. -/
theorem rule_object_formed :
    (v : Value) → (∀ object ∈ v.handBuilt, object.IsRule) → v.ruleObject.IsRule
  | .rule _ _, formed => formed _ (List.mem_singleton_self _)
  | .mapping kind entries, formed => mapping_formed kind entries (entries_formed _ entries formed)
  | .list items, formed => .composite rfl (items_formed items formed)
  | .tuple items, formed => .composite rfl (items_formed items formed)
  | .named _ items, formed => .composite rfl (items_formed items formed)
  | .text _, _ | .derivedText _, _ | .member _ .text _ _, _ | .enumClass _ _ _, _ | .callable _, _ => .plain _ rfl
  | .null, _ | .undefined, _ | .missing, _ | .missingTime, _ | .bool _, _ | .int _, _ | .derivedInt _, _
  | .float _, _ | .fraction _, _ | .decimal _, _ | .complex _ _, _ | .octets _, _ | .set _ _, _
  | .symbol _, _ | .object _, _ | .member _ .plain _ _, _ | .member _ .integer _ _, _
  | .member _ .flag _ _, _ => .plain _ rfl

/-- The members of an authored list of rules are filled with rule objects. -/
theorem items_formed : (vs : List Value) → (∀ object ∈ Value.handBuiltItems vs, object.IsRule) →
    ∀ member ∈ Value.ruleObjects vs, member.IsRule
  | [], _ => nofun
  | v :: vs, formed => by
    obtain ⟨first, others⟩ := List.forall_mem_append.mp formed
    exact List.forall_mem_cons.mpr ⟨rule_object_formed v first, items_formed vs others⟩

/-- What stands under the keys of rules is filled with rule objects. -/
theorem entries_formed (places : String → Bool) : (entries : List (String × Value)) →
    (∀ object ∈ Value.handBuiltEntries places entries, object.IsRule) →
    ∀ field ∈ Value.ruleEntries entries, places field.1 = true → field.2.IsRule
  | [], _ => nofun
  | (key, v) :: rest, formed => by
    obtain ⟨first, others⟩ := List.forall_mem_append.mp formed
    refine List.forall_mem_cons.mpr ⟨fun place => ?_, entries_formed places rest others⟩
    exact rule_object_formed v fun object among => first object (by rwa [if_pos place])
end

/-- So an authored schema stands for fields filled with rule objects. -/
theorem fields_formed {entries : List (String × Value)}
    (formed : ∀ object ∈ Value.handBuiltFields entries, object.IsRule) :
    ∀ field ∈ Value.ruleEntries entries, field.2.IsRule :=
  fun field among => entries_formed _ entries formed field among rfl

end RuleObjects
end RecordSchema
