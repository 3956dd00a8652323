import RecordSchema.Proofs.SchemaWalk
import RecordSchema.Rule.Authoring

/-! Sound rules. A rule object built by hand may hold anything, so a rule that
is read off one need not be of use. Reading an authored schema adds no such
rule of its own: if the objects that were built by hand are sound, then so is
every part of what comes out, at every depth. -/
namespace RecordSchema

mutual
/-- Whether every part of a rule, at every depth, is a rule of use to its kind. -/
def Rule.isSound : Rule → Bool
  | .primitive tag => tag != .undetermined
  | .array item => item.isSound
  | .composite members => Rule.areSound members
  | .nested fields => Schema.isSound fields
  | .foreign _ | .broken _ _ => false
  | .predicate _ | .enumeration _ | .unrecognized _ => true
termination_by structural rule => rule

/-- Whether all members of a composite are sound. -/
def Rule.areSound : List Rule → Bool
  | [] => true
  | rule :: rest => rule.isSound && Rule.areSound rest
termination_by structural rules => rules

/-- Whether the rules of all fields are sound. -/
def Schema.isSound : List (String × Rule) → Bool
  | [] => true
  | (_, rule) :: rest => rule.isSound && Schema.isSound rest
termination_by structural fields => fields
end

mutual
/-- Whether the rule objects that an authored rule holds are sound. What a mapping
lists under `enum` are literals and no rules, so nothing is asked of it. -/
def Value.isSoundlyAuthored : Value → Bool
  | .rule kind part => (Rule.ofObject (.rule kind part)).isSound
  | .mapping _ entries => (entries.lookup enumKey).isSome || Value.haveSoundRules entries
  | .list items | .tuple items | .named _ items => Value.areSoundlyAuthored items
  | _ => true
termination_by structural v => v

/-- Whether the rule objects that authored rules hold are sound. -/
def Value.areSoundlyAuthored : List Value → Bool
  | [] => true
  | v :: vs => v.isSoundlyAuthored && Value.areSoundlyAuthored vs
termination_by structural vs => vs

/-- Whether the rule objects that the authored rules under keys hold are sound. -/
def Value.haveSoundRules : List (String × Value) → Bool
  | [] => true
  | (_, v) :: rest => v.isSoundlyAuthored && Value.haveSoundRules rest
termination_by structural entries => entries
end

namespace RuleSoundness

private theorem of_name_determined (name : String) : Tag.ofName name ≠ .undetermined := by
  simp only [Tag.ofName, Tag.known, List.lookup_cons, List.lookup_nil]
  repeat' split
  all_goals simp

/-- The tag of a text is sound whatever the text. -/
private theorem tag_part_sound {part : Value} {name : String} (text : part.text? = some name) :
    (Rule.ofObject (.rule .primitive part)).isSound = true := by
  have tagged : part.tag = .ok (.ofName name) := by simp [Value.tag, text]
  have present : part ≠ .missing := by rintro rfl; cases text
  simp [Rule.ofObject, Rule.ofPlainPart, Rule.ofTagPart, tagged, Rule.isSound, of_name_determined]

/-- A rule that a sound schema has under a key is sound. -/
theorem lookup_sound {fields : Schema} (sound : Schema.isSound fields = true)
    (found : fields.lookup key = some rule) : rule.isSound = true := by
  induction fields with
  | nil => cases found
  | cons field rest ih =>
    obtain ⟨name, first⟩ := field
    rw [Schema.isSound, Bool.and_eq_true] at sound
    rw [List.lookup_cons] at found
    split at found
    · cases found
      exact sound.1
    · exact ih sound.2 found

theorem member_sound {members : List Rule} {member : Rule} (sound : (Rule.composite members).isSound = true)
    (among : member ∈ members) : member.isSound = true := by
  rw [Rule.isSound] at sound
  induction members with
  | nil => cases among
  | cons first rest ih =>
    rw [Rule.areSound, Bool.and_eq_true] at sound
    rcases List.mem_cons.mp among with rfl | among
    · exact sound.1
    · exact ih sound.2 among

theorem lookup_of_fields (objects : List (String × Value)) (key : String) :
    (Rule.ofFields objects).lookup key = (objects.lookup key).map Rule.ofObject := by
  induction objects with
  | nil => rfl
  | cons field rest ih =>
    obtain ⟨name, object⟩ := field
    simp only [Rule.ofFields, List.lookup_cons]
    split
    · rfl
    · exact ih

/-- What an authored mapping stands for is sound if the objects of its values
are; where the mapping lists literals they are not even looked at. -/
private theorem mapping_object_sound (kind : MappingKind) (entries objects : List (String × Value))
    (sound : entries.lookup enumKey = none → Schema.isSound (Rule.ofFields objects) = true) :
    (Rule.ofObject (Value.mappingObject kind entries objects)).isSound = true := by
  unfold Value.mappingObject
  split
  · split <;> rfl
  next item plain found =>
    rw [Rule.ofObject, Rule.isSound]
    exact lookup_sound (sound plain) (by rw [lookup_of_fields, found]; rfl)
  next plain _ =>
    rw [Rule.ofObject, Rule.isSound]
    exact sound plain

mutual
/-- Every authored rule whose hand-built rule objects are sound stands for a
sound rule. -/
theorem of_authored_sound : (v : Value) → v.isSoundlyAuthored = true → (Rule.ofAuthored v).isSound = true
  | .rule _ _, sound => by simpa [Rule.ofAuthored, Value.ruleObject, Value.isSoundlyAuthored] using sound
  | .text s, _ => tag_part_sound (show _ = some s from rfl)
  | .derivedText s, _ => tag_part_sound (show _ = some s from rfl)
  | .member _ .text _ value, _ => by
    cases value with
    | text s => exact tag_part_sound (show _ = some s from rfl)
    | _ => rfl
  | .mapping kind entries, sound => by
    refine mapping_object_sound kind entries _ fun plain => ?_
    simp only [Value.isSoundlyAuthored, plain, Option.isSome_none, Bool.false_or] at sound
    exact of_entries_sound entries sound
  | .list items, sound => of_items_sound items (by simpa [Value.isSoundlyAuthored] using sound)
  | .tuple items, sound => of_items_sound items (by simpa [Value.isSoundlyAuthored] using sound)
  | .named _ items, sound => of_items_sound items (by simpa [Value.isSoundlyAuthored] using sound)
  | .null, _ | .undefined, _ | .missing, _ | .missingTime, _ | .bool _, _ | .int _, _ | .derivedInt _, _
  | .float _, _ | .fraction _, _ | .decimal _, _ | .complex _ _, _ | .octets _, _ | .set _ _, _
  | .symbol _, _ | .object _, _ | .enumClass _ _ _, _ | .callable _, _
  | .member _ .plain _ _, _ | .member _ .integer _ _, _ | .member _ .flag _ _, _ => rfl

/-- The members of an authored list of rules are sound. -/
theorem of_items_sound : (vs : List Value) → Value.areSoundlyAuthored vs = true →
    Rule.areSound (Rule.ofObjects (Value.ruleObjects vs)) = true
  | [], _ => rfl
  | v :: vs, sound => by
    rw [Value.areSoundlyAuthored, Bool.and_eq_true] at sound
    rw [Value.ruleObjects, Rule.ofObjects, Rule.areSound, Bool.and_eq_true]
    exact ⟨of_authored_sound v sound.1, of_items_sound vs sound.2⟩

/-- The fields of an authored schema are sound. -/
theorem of_entries_sound : (entries : List (String × Value)) → Value.haveSoundRules entries = true →
    Schema.isSound (Rule.ofFields (Value.ruleEntries entries)) = true
  | [], _ => rfl
  | (key, v) :: rest, sound => by
    rw [Value.haveSoundRules, Bool.and_eq_true] at sound
    rw [Value.ruleEntries, Rule.ofFields, Schema.isSound, Bool.and_eq_true]
    exact ⟨of_authored_sound v sound.1, of_entries_sound rest sound.2⟩
end

/-- A validator judges by a sound schema if the rule objects in the schema it
was built from are sound. -/
theorem validator_sound {authored : Value} {logger : String} {validator : Validator}
    (built : Validator.ofAuthored authored logger = .ok validator)
    (sound : Value.haveSoundRules (authored.entries?.getD []) = true) :
    Schema.isSound validator.schema = true := by
  unfold Validator.ofAuthored Value.schemaObjects at built
  cases found : authored.entries? with
  | none => simp [found, Except.map] at built
  | some entries =>
    simp only [found, Except.map, Except.ok.injEq] at built
    subst built
    exact of_entries_sound entries (by simpa [found] using sound)

/-- The leaves of a sound schema can be listed. -/
theorem sound_listable (fields : Schema) (sound : Schema.isSound fields = true) :
    Schema.areListable fields = true := by
  induction fields using Schema.induction with
  | nil => rfl
  | leaf key rule rest leaf ih =>
    rw [Schema.isSound, Bool.and_eq_true] at sound
    rw [Schema.areListable, ih sound.2, Bool.and_true]
    cases rule with
    | broken kind fault => simp [Rule.isSound] at sound
    | nested inner => simp [Rule.kind?] at leaf
    | _ => rfl
  | broken key fault rest ih => simp [Schema.isSound, Rule.isSound] at sound
  | nested key inner rest inside below =>
    rw [Schema.isSound, Bool.and_eq_true, Rule.isSound] at sound
    rw [Schema.areListable, Rule.isListable, inside sound.1, below sound.2, Bool.and_true]

/-- So the columns of a validator with a sound schema are those of the schema. -/
theorem sound_columns {validator : Validator} (sound : Schema.isSound validator.schema = true)
    (separator : String) : validator.columns separator = .ok (validator.schema.columns separator) := by
  simp [Validator.columns, sound_listable _ sound]

end RuleSoundness
end RecordSchema
