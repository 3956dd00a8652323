import RecordSchema.Proofs.EntryLists
import RecordSchema.Proofs.NodePaths
import RecordSchema.Walkthrough

/-! What a validation can observe. A projection of a value keeps the keys that
the schema names and nothing else, in any order, and does the same inside the
records that nested rules judge. Judging a value and judging a projection of it
are one and the same action: result or fault, calls, log and final state agree
from every state. -/
namespace RecordSchema

mutual
/-- A record is a projection of another one: it binds each key once, exactly
the keys that both the fields and the other record have, and each of them to a
projection of what the other has there. The order of the keys is free. -/
inductive Schema.Projects : Schema → List (String × Value) → List (String × Value) → Prop where
  | record {fields : Schema} {entries kept : List (String × Value)}
      (once : (kept.map (·.1)).Nodup)
      (named : ∀ key, key ∈ kept.map (·.1) ↔ key ∈ fields.map (·.1) ∧ key ∈ entries.map (·.1))
      (bound : ∀ key rule v w, (key, rule) ∈ fields → entries.lookup key = some v →
        kept.lookup key = some w → Rule.Projects rule v w) :
      Schema.Projects fields entries kept

/-- A value is a projection of another one under a rule. Only a mapping under a
nested rule is changed, and how it is stored does not matter. -/
inductive Rule.Projects : Rule → Value → Value → Prop where
  | inside {fields : Schema} {kind other : MappingKind} {entries kept : List (String × Value)}
      (below : Schema.Projects fields entries kept) :
      Rule.Projects (.nested fields) (.mapping kind entries) (.mapping other kept)
  | whole {rule : Rule} {v : Value}
      (untouched : (∀ fields, rule ≠ .nested fields) ∨ v.entries? = none) : Rule.Projects rule v v
end

/-- A value is a projection of another one by a schema. What is no mapping has
the empty record for a projection. -/
def Schema.IsProjection (schema : Schema) (data kept : Value) : Prop :=
  ∃ kind entries, kept = .mapping kind entries ∧ Schema.Projects schema (data.entries?.getD []) entries

mutual
/-- The projection of a value under a rule whose keys are in the order of the schema. -/
def Rule.project : Rule → Value → Value
  | .nested fields, v => match v with
    | .mapping kind entries => .mapping kind (Schema.projectEntries entries fields)
    | v => v
  | _, v => v
termination_by structural rule => rule

/-- The projection of a record whose keys are in the order of the schema. -/
def Schema.projectEntries (entries : List (String × Value)) : List (String × Rule) → List (String × Value)
  | [] => []
  | (key, rule) :: rest => match entries.lookup key with
    | some v => (key, rule.project v) :: Schema.projectEntries entries rest
    | none => Schema.projectEntries entries rest
termination_by structural fields => fields
end

namespace Projection

variable {σ : Type} {judge : Judge σ} {path key : String} {rule : Rule} {v w : Value}
  {fields : Schema} {entries kept : List (String × Value)}

/-- What is under a key of the fields in a projection. -/
theorem slot_projected (projected : Schema.Projects fields entries kept) (member : (key, rule) ∈ fields) :
    (entries.lookup key = none ∧ kept.lookup key = none) ∨
      ∃ v w, entries.lookup key = some v ∧ kept.lookup key = some w ∧ Rule.Projects rule v w := by
  obtain ⟨_, named, bound⟩ := projected
  have inFields : key ∈ fields.map (·.1) := List.mem_map.mpr ⟨_, member, rfl⟩
  cases found : entries.lookup key with
  | none =>
    left
    rw [Entries.lookup_eq_none] at found ⊢
    exact ⟨rfl, fun inKept => found ((named key).mp inKept).2⟩
  | some v =>
    right
    have inEntries : key ∈ entries.map (·.1) := by
      by_contra absent
      rw [← Entries.lookup_eq_none, found] at absent
      cases absent
    cases keptFound : kept.lookup key with
    | none => exact absurd ((named key).mpr ⟨inFields, inEntries⟩) (Entries.lookup_eq_none.mp keptFound)
    | some w => exact ⟨v, w, rfl, rfl, bound key rule v w member found keptFound⟩

/-- Only a nested rule sees a difference between a value and its projection. -/
theorem leaf_slot_same (plain : ∀ inner, rule ≠ .nested inner)
    (projected : Schema.Projects fields entries kept) (member : (key, rule) ∈ fields) :
    kept.lookup key = entries.lookup key := by
  rcases slot_projected projected member with ⟨absent, absent'⟩ | ⟨v, w, found, found', below⟩
  · rw [absent, absent']
  · cases below with
    | inside below => exact absurd rfl (plain _)
    | whole untouched => rw [found, found']

/-- Fields are judged alike by a record and by a projection of it. The fields
are a part of those that the projection is by, as the walk takes them one by one. -/
theorem judge_fields_projected (some : Schema) (part : ∀ field ∈ some, field ∈ fields)
    (projected : Schema.Projects fields entries kept) :
    judge.judgeFields path kept some = judge.judgeFields path entries some := by
  induction some using Schema.induction generalizing path fields entries kept with
  | nil => rfl
  | leaf key rule rest leaf ih =>
    obtain ⟨first, others⟩ := List.forall_mem_cons.mp part
    rw [Judge.judgeFields, Judge.judgeFields, leaf_slot_same (Rule.leaf_plain leaf) projected first,
      ih others projected]
  | broken key fault rest ih =>
    obtain ⟨first, others⟩ := List.forall_mem_cons.mp part
    rw [Judge.judgeFields, Judge.judgeFields, leaf_slot_same (by simp) projected first, ih others projected]
  | nested key inner rest inside below =>
    obtain ⟨first, others⟩ := List.forall_mem_cons.mp part
    rw [Judge.judgeFields, Judge.judgeFields, below others projected]
    congr 1
    rcases slot_projected projected first with ⟨absent, absent'⟩ | ⟨v, w, found, found', deeper⟩
    · rw [absent, absent']
    · rw [found, found']
      cases deeper with
      | inside deeper =>
        rw [Judge.judge_field_record rfl, Judge.judge_field_record rfl, inside (fun _ member => member) deeper]
      | whole untouched => rfl

theorem validate_projected {schema : Schema} {data kept : Value} (projection : schema.IsProjection data kept) :
    judge.validate schema kept = judge.validate schema data := by
  obtain ⟨kind, entries, rfl, projected⟩ := projection
  unfold Judge.validate
  rw [← judge_fields_projected schema (fun _ member => member) projected]
  rfl

/-! ## Every value has a projection -/

theorem project_entries_keys (entries : List (String × Value)) (fields : Schema) :
    (Schema.projectEntries entries fields).map (·.1) =
      (fields.map (·.1)).filter fun key => (entries.lookup key).isSome := by
  induction fields with
  | nil => rfl
  | cons field rest ih =>
    obtain ⟨key, rule⟩ := field
    cases found : entries.lookup key with
    | none => simp [Schema.projectEntries, found, ih]
    | some v => simp [Schema.projectEntries, found, ih]

theorem project_entries_lookup (distinct : (fields.map (·.1)).Nodup) (member : (key, rule) ∈ fields)
    (found : entries.lookup key = some v) :
    (Schema.projectEntries entries fields).lookup key = some (rule.project v) := by
  refine Entries.lookup_of_mem ?_ ?_
  · rw [project_entries_keys]
    exact distinct.filter _
  · clear distinct
    induction fields with
    | nil => cases member
    | cons field rest ih =>
      obtain ⟨name, first⟩ := field
      rcases List.mem_cons.mp member with same | below
      · cases same
        simp [Schema.projectEntries, found]
      · rw [Schema.projectEntries]
        split
        · exact List.mem_cons_of_mem _ (ih below)
        · exact ih below

/-- The projection in the order of the fields is one, if the rules under the
fields project each value. -/
private theorem project_entries_projects (distinct : (fields.map (·.1)).Nodup)
    (each : ∀ field ∈ fields, ∀ v, Rule.Projects field.2 v (field.2.project v)) :
    Schema.Projects fields entries (Schema.projectEntries entries fields) := by
  refine .record ?_ (fun key => ?_) (fun key rule v w member found kept => ?_)
  · rw [project_entries_keys]
    exact distinct.filter _
  · rw [project_entries_keys, List.mem_filter]
    refine and_congr Iff.rfl ?_
    rw [← not_iff_not, ← Entries.lookup_eq_none, Bool.not_eq_true, Option.isSome_eq_false_iff,
      Option.isNone_iff_eq_none]
  · rw [project_entries_lookup distinct member found] at kept
    cases kept
    exact each _ member v

/-- Under distinct keys the rule of every field projects each value. -/
private theorem rules_project (fields : Schema) (distinct : Schema.hasDistinctKeys fields = true) :
    ∀ field ∈ fields, ∀ v, Rule.Projects field.2 v (field.2.project v) := by
  induction fields using Schema.induction with
  | nil => simp
  | leaf key rule rest leaf ih =>
    simp only [Schema.hasDistinctKeys, Bool.and_eq_true] at distinct
    refine List.forall_mem_cons.mpr ⟨fun v => ?_, ih distinct.2⟩
    cases rule with
    | nested inner => simp [Rule.kind?] at leaf
    | _ => exact .whole (.inl (by simp))
  | broken key fault rest ih =>
    simp only [Schema.hasDistinctKeys, Bool.and_eq_true] at distinct
    exact List.forall_mem_cons.mpr ⟨fun v => .whole (.inl (by simp)), ih distinct.2⟩
  | nested key inner rest inside below =>
    simp only [Schema.hasDistinctKeys, Rule.hasDistinctKeys, Bool.and_eq_true] at distinct
    refine List.forall_mem_cons.mpr ⟨fun v => ?_, below distinct.2⟩
    cases v with
    | mapping kind entries =>
      exact .inside (project_entries_projects (NodePaths.distinct_keys_nodup inner distinct.1.2) (inside distinct.1.2))
    | _ => exact .whole (.inr rfl)

/-- Under distinct keys every value has a projection. -/
private theorem projection_exists {schema : Schema} (distinct : Schema.hasDistinctKeys schema = true)
    (data : Value) :
    schema.IsProjection data (.mapping .plain (Schema.projectEntries (data.entries?.getD []) schema)) :=
  ⟨.plain, _, rfl, project_entries_projects (NodePaths.distinct_keys_nodup schema distinct)
    (rules_project schema distinct)⟩

/-! ## What can be observed -/

/-- Only what the schema names can be observed. Every value has a projection by
a schema with distinct keys. From every state of the predicates a validator
ends on a projection as on the value itself: with the same report or fault, in
the same state, after the same calls and log records. So it cannot tell two
values with a common projection apart. -/
theorem only_named_keys_observed (validator : Validator) (host : Host σ) (data : Value) :
    (Schema.hasDistinctKeys validator.schema = true → ∃ kept, validator.schema.IsProjection data kept) ∧
    (∀ kept, validator.schema.IsProjection data kept →
      ∀ state, validator.validate host kept state = validator.validate host data state) ∧
    ∀ other kept, validator.schema.IsProjection data kept → validator.schema.IsProjection other kept →
      ∀ state, validator.validate host other state = validator.validate host data state := by
  have same {data kept : Value} (projection : validator.schema.IsProjection data kept) :
      validator.validate host kept = validator.validate host data := validate_projected projection
  refine ⟨fun distinct => ⟨_, projection_exists distinct data⟩, fun kept projection state => ?_,
    fun other kept projection projection' state => ?_⟩
  · rw [same projection]
  · rw [← same projection, ← same projection']

/-- The schema of the walkthrough does not tell a record with an extra key, and
with another one inside the address, from one with neither and in another order. -/
theorem walkthrough_extras_unseen :
    Schema.hasDistinctKeys Walkthrough.validator.schema = true ∧
    ∃ data other kept : Value,
      data = .mapping .plain [("extra", .int 1), ("name", .text "Ada"),
        ("address", .mapping .plain [("street", .null), ("city", .text "London")])] ∧
      other = .mapping .ordered [("address", .mapping .plain [("city", .text "London")]), ("name", .text "Ada")] ∧
      Walkthrough.validator.schema.IsProjection data kept ∧
      Walkthrough.validator.schema.IsProjection other kept ∧
      Walkthrough.validator.validate Walkthrough.host kept [] =
        Walkthrough.validator.validate Walkthrough.host data [] ∧
      Walkthrough.validator.validate Walkthrough.host other [] =
        Walkthrough.validator.validate Walkthrough.host data [] := by
  have distinct : Schema.hasDistinctKeys Walkthrough.validator.schema = true := rfl
  refine ⟨distinct, _, _, _, rfl, rfl, projection_exists distinct _, projection_exists distinct _, ?_, ?_⟩
  · exact (only_named_keys_observed Walkthrough.validator Walkthrough.host _).2.1 _
      (projection_exists distinct _) []
  · exact (only_named_keys_observed Walkthrough.validator Walkthrough.host _).2.2 _ _
      (projection_exists distinct _) (projection_exists distinct _) []

end Projection
end RecordSchema
