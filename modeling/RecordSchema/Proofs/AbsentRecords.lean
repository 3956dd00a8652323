import RecordSchema.Proofs.EntryLists
import RecordSchema.Proofs.LeafPaths
import RecordSchema.Proofs.RuleSoundness
import RecordSchema.Walkthrough

/-! Records that are not there. A value without any of the fields that a schema names is
judged by the schema alone. Below an absent field everything is absent again, so the whole
schema is walked and nothing is ever looked at: the report has a branch for every nested
rule and a leaf for every other one, which passes if the rule is the tag that absence
passes. No call is made and nobody is warned, whatever the predicates would do. -/
namespace RecordSchema

/-- Whether absence is what a rule asks for: whether it is the tag `undefined`. -/
def Rule.asksAbsence : Rule → Bool
  | .primitive .undefined => true
  | _ => false

mutual
/-- The verdict on an absent field. -/
def Rule.blankVerdict : Rule → Verdict
  | .nested fields => .branch (Schema.blankReport fields)
  | rule => .leaf rule.asksAbsence
termination_by structural rule => rule

/-- The report on a record that has none of the fields of a schema. -/
def Schema.blankReport : List (String × Rule) → Report
  | [] => []
  | (key, rule) :: rest => (key, rule.blankVerdict) :: Schema.blankReport rest
termination_by structural fields => fields
end

mutual
/-- The rules, with their paths, that a walk through nested rules comes to an end with. -/
def Rule.leafRules (separator path : String) : Rule → List (String × Rule)
  | .nested fields => Schema.leafRulesBelow separator path fields
  | rule => [(path, rule)]
termination_by structural rule => rule

/-- The leaf rules below a path, in order. -/
def Schema.leafRulesBelow (separator path : String) : List (String × Rule) → List (String × Rule)
  | [] => []
  | (key, rule) :: rest =>
    rule.leafRules separator (extendPath separator path key) ++ Schema.leafRulesBelow separator path rest
termination_by structural fields => fields
end

/-- The leaf rules of a schema with their paths, in order. -/
def Schema.leafRules (separator : String) (schema : Schema) : List (String × Rule) :=
  Schema.leafRulesBelow separator "" schema

/-- A value has none of the fields of a schema: it is no mapping, or a mapping in which
none of their keys is bound. -/
def Value.Lacks (data : Value) (schema : Schema) : Prop :=
  ∀ entries, data.entries? = some entries → ∀ key ∈ schema.map (·.1), key ∉ entries.map (·.1)

namespace AbsentRecords

variable {σ : Type} {judge : Judge σ} {separator path key : String} {rule : Rule} {fields rest : Schema}
  {entries : List (String × Value)} {data : Value}

/-! ## The blank report -/

theorem asks_absence_iff : rule.asksAbsence = true ↔ rule = .primitive .undefined := by
  constructor
  · intro asked
    cases rule with
    | primitive tag =>
      cases tag with
      | undefined => rfl
      | _ => cases asked
    | _ => cases asked
  · rintro rfl
    rfl

theorem blank_verdict_leaf (leaf : rule.kind? ≠ some .nested) : rule.blankVerdict = .leaf rule.asksAbsence := by
  cases rule with
  | nested fields => simp [Rule.kind?] at leaf
  | _ => rfl

theorem leaf_rules_leaf (leaf : rule.kind? ≠ some .nested) : rule.leafRules separator path = [(path, rule)] := by
  cases rule with
  | nested fields => simp [Rule.kind?] at leaf
  | _ => rfl

theorem leaf_rules_columns (fields : Schema) :
    (Schema.leafRulesBelow separator path fields).map (·.1) = Schema.columnsBelow separator path fields := by
  induction fields using Schema.induction generalizing path with
  | nil => rfl
  | leaf key rule rest leaf ih =>
    rw [Schema.leafRulesBelow, leaf_rules_leaf leaf, Schema.columnsBelow, LeafPaths.columns_leaf leaf, ← ih]
    rfl
  | broken key fault rest ih =>
    rw [Schema.leafRulesBelow, Schema.columnsBelow, ← ih]
    rfl
  | nested key inner rest inside below =>
    rw [Schema.leafRulesBelow, Schema.columnsBelow, List.map_append, below, Rule.leafRules, inside, Rule.columns]

/-- The leaves of the blank report are the leaf rules, each with whether it asks for
absence. -/
theorem blank_leaves (fields : Schema) : Report.leavesBelow separator path (Schema.blankReport fields) =
    (Schema.leafRulesBelow separator path fields).map fun (path, rule) => (path, rule.asksAbsence) := by
  induction fields using Schema.induction generalizing path with
  | nil => rfl
  | leaf key rule rest leaf ih =>
    rw [Schema.blankReport, blank_verdict_leaf leaf, Report.leavesBelow, Schema.leafRulesBelow, leaf_rules_leaf leaf, ih]
    rfl
  | broken key fault rest ih =>
    rw [Schema.blankReport, Report.leavesBelow, Schema.leafRulesBelow, ih]
    rfl
  | nested key inner rest inside below =>
    rw [Schema.blankReport, Report.leavesBelow, Schema.leafRulesBelow, List.map_append, below, Rule.blankVerdict,
      Verdict.leaves, inside, Rule.leafRules]

theorem blank_leaves_columns (schema : Schema) (separator : String) :
    ((Schema.blankReport schema).leaves separator).map (·.1) = schema.columns separator := by
  rw [Report.leaves, blank_leaves, List.map_map, Schema.columns, ← leaf_rules_columns]
  rfl

theorem blank_valid_iff (schema : Schema) : (Schema.blankReport schema).isValid = true ↔
    ∀ placed ∈ schema.leafRules defaultSeparator, placed.2 = .primitive .undefined := by
  rw [Report.isValid, Report.leaves, blank_leaves, List.all_map, List.all_eq_true]
  exact forall₂_congr fun placed _ => asks_absence_iff

/-! ## Absent fields -/

/-- Without a value, a sound rule that is not nested passes if it asks for absence, and
nothing happens. -/
theorem judge_leaf_absent (sound : rule.isSound = true) :
    judge.judgeLeaf path none rule = pure rule.asksAbsence := by
  cases rule with
  | primitive tag =>
    cases tag with
    | undetermined => cases sound
    | _ => rfl
  | _ => rfl

/-- Judging fields none of which is there comes to the blank report, and nothing
happens. A nested rule that is absent hands an empty record to its fields, so the same
is so below it. -/
theorem judge_fields_absent (fields : Schema) (sound : Schema.isSound fields = true)
    (lacks : ∀ key ∈ fields.map (·.1), entries.lookup key = none) :
    judge.judgeFields path entries fields = pure (Schema.blankReport fields) := by
  induction fields using Schema.induction generalizing path entries with
  | nil => rfl
  | leaf key rule rest leaf ih =>
    rw [Schema.isSound, Bool.and_eq_true] at sound
    obtain ⟨absent, others⟩ := List.forall_mem_cons.mp lacks
    rw [Judge.judgeFields, absent, Judge.judge_field_leaf leaf, judge_leaf_absent sound.1, ih sound.2 others,
      Schema.blankReport, blank_verdict_leaf leaf]
    simp
  | broken key fault rest ih => simp [Schema.isSound, Rule.isSound] at sound
  | nested key inner rest inside below =>
    rw [Schema.isSound, Rule.isSound, Bool.and_eq_true] at sound
    obtain ⟨absent, others⟩ := List.forall_mem_cons.mp lacks
    have empty : Judge.record? none = some [] := rfl
    rw [Judge.judgeFields, absent, Judge.judge_field_record empty, inside sound.1 (by simp), below sound.2 others,
      Schema.blankReport, Rule.blankVerdict]
    simp

theorem lacks_lookup (lacks : data.Lacks fields) :
    ∀ key ∈ fields.map (·.1), (data.entries?.getD []).lookup key = none := by
  intro key named
  cases found : data.entries? with
  | none => rfl
  | some entries => exact Entries.lookup_eq_none.mpr (lacks entries found key named)

/-- A record that is not there is judged by the schema alone. Let every rule of a
validator be sound. Then every value that has none of its fields, under every meaning of
calls and from every state, is judged to the blank report: the state is left as it is, no
call is made, no warning is given and the only event is the record of the report. The
leaves of this report stand at the columns of the schema, and each of them passes if and
only if the leaf rule there is the tag `undefined`. So it is valid if and only if every
leaf rule is this tag. -/
theorem absent_record_judged (validator : Validator) (sound : Schema.isSound validator.schema = true) :
    (∀ (σ : Type) (host : Host σ) (data : Value) (state : σ), data.Lacks validator.schema →
      validator.validate host data state = ⟨.ok (Schema.blankReport validator.schema), state,
        [.logged validator.logger (.judged (Schema.blankReport validator.schema))]⟩) ∧
    (∀ separator, ((Schema.blankReport validator.schema).leaves separator).map (·.1) =
      validator.schema.columns separator) ∧
    (∀ separator, List.Forall₂
      (fun leaf placed => leaf.1 = placed.1 ∧ (leaf.2 = true ↔ placed.2 = .primitive .undefined))
      ((Schema.blankReport validator.schema).leaves separator) (validator.schema.leafRules separator)) ∧
    ((Schema.blankReport validator.schema).isValid = true ↔
      ∀ placed ∈ validator.schema.leafRules defaultSeparator, placed.2 = .primitive .undefined) := by
  refine ⟨?_, ?_, ?_, ?_⟩
  · intro σ host data state lacks
    have judged : (validator.judge host).judgeFields "" (data.entries?.getD []) validator.schema state =
        ⟨.ok (Schema.blankReport validator.schema), state, []⟩ := by
      rw [judge_fields_absent validator.schema sound (lacks_lookup lacks), Action.pure_run]
    exact Validator.finds_iff.mpr judged
  · intro separator
    exact blank_leaves_columns validator.schema separator
  · intro separator
    rw [Report.leaves, blank_leaves, List.forall₂_map_left_iff, Schema.leafRules, List.forall₂_same]
    exact fun placed _ => ⟨rfl, asks_absence_iff⟩
  · exact blank_valid_iff validator.schema

/-- A text is no record, and a record of a nickname has no field of the walkthrough. Both
are judged alike, though every call would fail: only the mark of a deleted account passes,
and the address has a report of its own. -/
theorem walkthrough_nobody_judged :
    let host := Catalogue.host [.refuses "ValueError" "closed", .refuses "ValueError" "closed"]
    let nickname := Value.mapping .plain [("nickname", .text "Ada")]
    let blank : Report := [("name", .leaf false), ("status", .leaf false), ("balance", .leaf false),
      ("tags", .leaf false), ("deleted", .leaf true), ("address", .branch [("city", .leaf false), ("zip", .leaf false)])]
    Schema.isSound Walkthrough.validator.schema = true ∧
    Walkthrough.validator.validate host (.text "nobody") [] =
      ⟨.ok blank, [], [.logged validatorLogger (.judged blank)]⟩ ∧
    Walkthrough.validator.validate host nickname [] = ⟨.ok blank, [], [.logged validatorLogger (.judged blank)]⟩ ∧
    blank.isValid ≠ true := by
  intro host nickname blank
  have sound : Schema.isSound Walkthrough.validator.schema = true := by rfl
  have found : Schema.blankReport Walkthrough.validator.schema = blank := by rfl
  obtain ⟨judged, -, -, valid⟩ := absent_record_judged Walkthrough.validator sound
  rw [found] at judged valid
  have no_record : (Value.text "nobody").Lacks Walkthrough.validator.schema := by
    intro entries mapping
    cases mapping
  have other_keys : nickname.Lacks Walkthrough.validator.schema := by
    intro entries mapping
    cases mapping
    decide
  refine ⟨sound, judged _ host _ [] no_record, judged _ host _ [] other_keys, fun passes => ?_⟩
  have name := valid.mp passes ("name", .primitive .string) List.mem_cons_self
  cases name

end AbsentRecords
end RecordSchema
