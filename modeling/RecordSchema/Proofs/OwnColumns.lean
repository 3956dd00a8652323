import RecordSchema.Proofs.NodePaths
import RecordSchema.Proofs.PathVerdicts
import RecordSchema.Proofs.RowView

/-! Every outcome in its own column. A report is read into a row by way of a
dictionary of paths, in which an outcome is found by nothing but its path. As long as no
two nodes of the schema have one path, neither do two outcomes, and none has the path of
another node. What a column shows is then what the keys of its leaf lead to in the
report, and a failure if a nested key on the way has failed as a whole. -/
namespace RecordSchema

mutual
/-- The keys that lead from a rule to the leaf rules at and below it. -/
def Rule.leafKeys : Rule → List (List String)
  | .nested fields => Schema.leafKeys fields
  | _ => [[]]
termination_by structural rule => rule

/-- The keys that lead to the leaf rules of a schema, in order. -/
def Schema.leafKeys : List (String × Rule) → List (List String)
  | [] => []
  | (key, rule) :: rest => rule.leafKeys.map (key :: ·) ++ Schema.leafKeys rest
termination_by structural fields => fields
end

mutual
/-- The outcomes of a verdict, each with the keys that lead to it. -/
def Verdict.outcomes : Verdict → List (List String × Bool)
  | .leaf passed => [([], passed)]
  | .branch fields => Report.outcomes fields
termination_by structural verdict => verdict

/-- The outcomes of a report, in order. -/
def Report.outcomes : List (String × Verdict) → List (List String × Bool)
  | [] => []
  | (key, verdict) :: rest => verdict.outcomes.map (Prod.map (key :: ·) id) ++ Report.outcomes rest
termination_by structural fields => fields
end

mutual
/-- A verdict that judging by a rule can end with, whatever it judges. -/
inductive Rule.Gives : Rule → Verdict → Prop where
  | leaf {rule : Rule} (plain : rule.kind? ≠ some .nested) (passed : Bool) : Rule.Gives rule (.leaf passed)
  | broken (fault : Fault) : Rule.Gives (.broken .nested fault) (.leaf false)
  | refused (fields : Schema) : Rule.Gives (.nested fields) (.leaf false)
  | branch {fields : Schema} {report : Report} (below : Schema.Gives fields report) :
      Rule.Gives (.nested fields) (.branch report)

/-- A report that judging by fields can end with. -/
inductive Schema.Gives : Schema → Report → Prop where
  | nil : Schema.Gives [] []
  | cons (key : String) {rule : Rule} {verdict : Verdict} {rest : Schema} {report : Report}
      (first : Rule.Gives rule verdict) (others : Schema.Gives rest report) :
      Schema.Gives ((key, rule) :: rest) ((key, verdict) :: report)
end

namespace OwnColumns

variable {σ : Type} {judge : Judge σ} {separator path key : String} {keys front back : List String}
  {entries : List (String × Value)} {rule : Rule} {fields : Schema} {verdict : Verdict} {report : Report}
  {shown : Bool} {state : σ}

theorem judge_fields_gives (fields : Schema)
    (returned : (judge.judgeFields path entries fields state).result = .ok report) : Schema.Gives fields report := by
  induction fields using Schema.induction generalizing path entries report state with
  | nil =>
    rw [Judge.judge_fields_nil_returns] at returned
    subst returned
    exact .nil
  | leaf key rule rest leaf ih =>
    obtain ⟨verdict, below, first, second, rfl⟩ := Judge.judge_fields_cons_returns.mp returned
    rw [Judge.judge_field_leaf leaf, Action.map_returns] at first
    obtain ⟨passed, -, rfl⟩ := first
    exact .cons key (.leaf leaf passed) (ih second)
  | broken key fault rest ih =>
    obtain ⟨verdict, below, first, second, rfl⟩ := Judge.judge_fields_cons_returns.mp returned
    cases Judge.judge_field_broken_returns first
    exact .cons key (.broken fault) (ih second)
  | nested key inner rest inside after =>
    obtain ⟨verdict, below, first, second, rfl⟩ := Judge.judge_fields_cons_returns.mp returned
    refine .cons key ?_ (after second)
    cases record : Judge.record? (entries.lookup key) with
    | none =>
      rw [Judge.judge_field_refused record, Judge.refuse_nested_run] at first
      cases first
      exact .refused inner
    | some found =>
      rw [Judge.judge_field_record record, Action.map_returns] at first
      obtain ⟨report, judged, rfl⟩ := first
      exact .branch (inside judged)

/-! ## Paths from keys -/

theorem leaf_keys_leaf (leaf : rule.kind? ≠ some .nested) : rule.leafKeys = [[]] := by
  cases rule with
  | nested fields => simp [Rule.kind?] at leaf
  | _ => rfl

/-- A column is the path that the keys of its leaf lead to. -/
theorem columns_joined (fields : Schema) :
    Schema.columnsBelow separator path fields = (Schema.leafKeys fields).map (joinPath separator path) := by
  induction fields using Schema.induction generalizing path with
  | nil => rfl
  | leaf key rule rest leaf ih =>
    simp [Schema.columnsBelow, Schema.leafKeys, LeafPaths.columns_leaf leaf, leaf_keys_leaf leaf, ih, joinPath]
  | broken key fault rest ih =>
    simp [Schema.columnsBelow, Schema.leafKeys, Rule.columns, Rule.leafKeys, ih, joinPath]
  | nested key inner rest inside below =>
    simp [Schema.columnsBelow, Schema.leafKeys, Rule.columns, Rule.leafKeys, inside, below, joinPath,
      Function.comp_def]

mutual
theorem verdict_leaves_joined (path : String) : ∀ verdict : Verdict,
    verdict.leaves separator path = verdict.outcomes.map (Prod.map (joinPath separator path) id)
  | .leaf _ => rfl
  | .branch fields => leaves_joined path fields

/-- A leaf of a report has the path that its keys lead to. -/
theorem leaves_joined (path : String) : ∀ report : Report,
    Report.leavesBelow separator path report = (Report.outcomes report).map (Prod.map (joinPath separator path) id)
  | [] => rfl
  | (key, verdict) :: rest => by
    have own : Prod.map (joinPath separator path) (id : Bool → Bool) ∘ Prod.map (key :: ·) id =
        Prod.map (joinPath separator (extendPath separator path key)) id := rfl
    rw [Report.leavesBelow, Report.outcomes, List.map_append, List.map_map, own,
      verdict_leaves_joined (extendPath separator path key) verdict, leaves_joined path rest]
end

/-! ## What keys lead to -/

theorem leaf_keys_within (fields : Schema) : (Schema.leafKeys fields).Sublist (Schema.nodeKeys fields) := by
  induction fields using Schema.induction with
  | nil => exact .slnil
  | leaf key rule rest leaf ih =>
    rw [Schema.leafKeys, Schema.nodeKeys, leaf_keys_leaf leaf, NodePaths.node_keys_leaf leaf]
    exact (List.Sublist.refl _).append ih
  | broken key fault rest ih => exact (List.Sublist.refl _).append ih
  | nested key inner rest inside below =>
    rw [Schema.leafKeys, Schema.nodeKeys, Rule.leafKeys, Rule.nodeKeys]
    exact ((inside.cons _).map _).append below

mutual
theorem verdict_outcomes_within {rule : Rule} {verdict : Verdict} :
    rule.Gives verdict → (verdict.outcomes.map (·.1)).Sublist rule.nodeKeys
  | .leaf plain _ => by
    rw [NodePaths.node_keys_leaf plain]
    exact .refl _
  | .broken fault => .refl _
  | .refused fields => List.singleton_sublist.mpr List.mem_cons_self
  | .branch below => (outcomes_within below).cons _

/-- The outcomes of a report stand at nodes of the schema, each at its own one. -/
theorem outcomes_within {fields : Schema} {report : Report} :
    Schema.Gives fields report → ((Report.outcomes report).map (·.1)).Sublist (Schema.nodeKeys fields)
  | .nil => .slnil
  | .cons key first others => by
    have own := (verdict_outcomes_within first).map (key :: ·)
    rw [List.map_map] at own
    rw [Report.outcomes, Schema.nodeKeys, List.map_append, List.map_map]
    exact own.append (outcomes_within others)
end

mutual
theorem verdict_covers {rule : Rule} {verdict : Verdict} : rule.Gives verdict → ∀ keys ∈ rule.leafKeys,
    ∃ front back shown, keys = front ++ back ∧ (front, shown) ∈ verdict.outcomes ∧ (back = [] ∨ shown = false)
  | .leaf plain passed, keys, member => by
    rw [leaf_keys_leaf plain, List.mem_singleton] at member
    exact ⟨[], [], passed, member, List.mem_singleton_self _, .inl rfl⟩
  | .broken fault, keys, member => ⟨[], keys, false, rfl, List.mem_singleton_self _, .inr rfl⟩
  | .refused fields, keys, member => ⟨[], keys, false, rfl, List.mem_singleton_self _, .inr rfl⟩
  | .branch below, keys, member => covers below keys member

/-- On the way to every leaf there is an outcome: that of the leaf, or a failure. -/
theorem covers {fields : Schema} {report : Report} : Schema.Gives fields report → ∀ keys ∈ Schema.leafKeys fields,
    ∃ front back shown, keys = front ++ back ∧ (front, shown) ∈ Report.outcomes report ∧ (back = [] ∨ shown = false)
  | .nil, keys, member => by cases member
  | .cons key first others, keys, member => by
    rw [Schema.leafKeys, List.mem_append, List.mem_map] at member
    rcases member with ⟨deeper, member, rfl⟩ | member
    · obtain ⟨front, back, shown, rfl, found, last⟩ := verdict_covers first deeper member
      refine ⟨key :: front, back, shown, rfl, ?_, last⟩
      exact List.mem_append_left _ (List.mem_map.mpr ⟨_, found, rfl⟩)
    · obtain ⟨front, back, shown, same, found, last⟩ := covers others keys member
      exact ⟨front, back, shown, same, List.mem_append_right _ found, last⟩
end

theorem field_node (named : key ∈ fields.map (·.1)) : [key] ∈ Schema.nodeKeys fields := by
  induction fields with
  | nil => cases named
  | cons field rest ih =>
    obtain ⟨name, rule⟩ := field
    have itself : [] ∈ rule.nodeKeys := by cases rule <;> simp [Rule.nodeKeys]
    rw [Schema.nodeKeys, List.mem_append]
    rcases List.mem_cons.mp named with rfl | named
    · exact .inl (List.mem_map_of_mem itself)
    · exact .inr (ih named)

/-- Where no two nodes have the same keys, no two fields have the same key. -/
theorem first_key_new {rest : Schema} (distinct : (Schema.nodeKeys ((key, rule) :: rest)).Nodup) :
    rule.nodeKeys.Nodup ∧ (Schema.nodeKeys rest).Nodup ∧ key ∉ rest.map (·.1) := by
  have itself : [key] ∈ rule.nodeKeys.map (key :: ·) := by cases rule <;> simp [Rule.nodeKeys]
  rw [Schema.nodeKeys, List.nodup_append] at distinct
  obtain ⟨own, below, apart⟩ := distinct
  exact ⟨own.of_map _, below, fun again => apart [key] itself [key] (field_node again) rfl⟩

theorem at_other {name : String} (other : name ≠ key) :
    Report.at? ((key, verdict) :: report) (name :: keys) = Report.at? report (name :: keys) := by
  simp [Report.at?, Verdict.at?, List.lookup_cons, beq_false_of_ne other]

mutual
theorem verdict_outcome_stands {rule : Rule} {verdict : Verdict} : rule.Gives verdict → rule.nodeKeys.Nodup →
    ∀ {keys shown}, (keys, shown) ∈ verdict.outcomes → verdict.at? keys = some (.leaf shown)
  | .leaf _ _, _, _, _, member => by
    cases List.mem_singleton.mp member
    rfl
  | .broken _, _, _, _, member => by
    cases List.mem_singleton.mp member
    rfl
  | .refused _, _, _, _, member => by
    cases List.mem_singleton.mp member
    rfl
  | .branch below, distinct, _, _, member => outcome_stands below (List.nodup_cons.mp distinct).2 member

/-- An outcome stands where its keys lead to. -/
theorem outcome_stands {fields : Schema} {report : Report} : Schema.Gives fields report →
    (Schema.nodeKeys fields).Nodup → ∀ {keys shown}, (keys, shown) ∈ Report.outcomes report →
    Report.at? report keys = some (.leaf shown)
  | .nil, _, _, _, member => by cases member
  | .cons key first others, distinct, keys, shown, member => by
    obtain ⟨own, below, new⟩ := first_key_new distinct
    rw [Report.outcomes, List.mem_append, List.mem_map] at member
    rcases member with ⟨⟨deeper, _⟩, member, same⟩ | member
    · cases same
      exact (PathVerdicts.at_key List.lookup_cons_self).trans (verdict_outcome_stands first own member)
    · have within := (outcomes_within others).subset (List.mem_map_of_mem member)
      obtain ⟨name, deeper, rfl, named⟩ := NodePaths.node_keys_head _ within
      have other : name ≠ key := by
        rintro rfl
        exact new named
      exact (at_other other).trans (outcome_stands others below member)
end

theorem outcome_below (member : (key, verdict) ∈ report) (inside : (keys, shown) ∈ verdict.outcomes) :
    (key :: keys, shown) ∈ Report.outcomes report := by
  induction report with
  | nil => cases member
  | cons field rest ih =>
    obtain ⟨name, first⟩ := field
    rw [Report.outcomes, List.mem_append]
    rcases List.mem_cons.mp member with same | later
    · cases same
      exact .inl (List.mem_map.mpr ⟨_, inside, rfl⟩)
    · exact .inr (ih later)

/-- What keys lead to is an outcome, if it is a leaf. -/
theorem standing_outcome (verdict : Verdict) (keys : List String) (stands : verdict.at? keys = some (.leaf shown)) :
    (keys, shown) ∈ verdict.outcomes := by
  induction keys generalizing verdict with
  | nil =>
    rw [Verdict.at?, Option.some.injEq] at stands
    subst stands
    exact List.mem_singleton_self _
  | cons key keys ih =>
    cases verdict with
    | leaf passed => cases stands
    | branch fields =>
      rw [Verdict.at?] at stands
      split at stands
      next inner found => exact outcome_below (Entries.mem_of_lookup found) (ih inner stands)
      next => cases stands

theorem at_append (verdict : Verdict) (front back : List String) :
    verdict.at? (front ++ back) = (verdict.at? front).bind (·.at? back) := by
  induction front generalizing verdict with
  | nil => simp [Verdict.at?]
  | cons key front ih =>
    cases verdict with
    | leaf passed => rfl
    | branch fields =>
      rw [List.cons_append, Verdict.at?, Verdict.at?]
      split
      next inner found => exact ih inner
      next => rfl

/-- Beyond a failure there is nothing. -/
theorem beyond_leaf (failed : report.at? front = some (.leaf shown)) (further : back ≠ []) :
    report.at? (front ++ back) = none := by
  obtain ⟨key, below, rfl⟩ := List.exists_cons_of_ne_nil further
  rw [Report.at?] at failed
  rw [Report.at?, at_append, failed]
  rfl

/-- In the dictionary of a report a node is found by its path if it has an outcome. -/
theorem flatten_lookup (gives : Schema.Gives fields report)
    (distinct : ((Schema.nodeKeys fields).map (joinPath separator "")).Nodup)
    (node : keys ∈ Schema.nodeKeys fields) :
    (report.flatten separator).lookup (joinPath separator "" keys) = some shown ↔
      (keys, shown) ∈ Report.outcomes report := by
  have within := outcomes_within gives
  have paths : ((report.leaves separator).map (·.1)).Nodup := by
    rw [Report.leaves, leaves_joined, List.map_map]
    have apart := distinct.sublist (within.map (joinPath separator ""))
    rwa [List.map_map] at apart
  rw [Report.flatten, Entries.of_pairs_distinct paths]
  constructor
  · intro found
    have entry := Entries.mem_of_lookup found
    rw [Report.leaves, leaves_joined, List.mem_map] at entry
    obtain ⟨⟨others, outcome⟩, member, same⟩ := entry
    obtain ⟨path, rfl⟩ := Prod.mk.inj same
    have node' : others ∈ Schema.nodeKeys fields := within.subset (List.mem_map_of_mem member)
    rwa [List.inj_on_of_nodup_map distinct node' node path] at member
  · intro member
    refine Entries.lookup_of_mem paths ?_
    rw [Report.leaves, leaves_joined]
    exact List.mem_map.mpr ⟨_, member, rfl⟩

/-! ## Leaf rules -/

theorem leaf_below (member : (key, rule) ∈ fields) (inside : keys ∈ rule.leafKeys) :
    key :: keys ∈ Schema.leafKeys fields := by
  induction fields with
  | nil => cases member
  | cons field rest ih =>
    obtain ⟨name, first⟩ := field
    rw [Schema.leafKeys, List.mem_append]
    rcases List.mem_cons.mp member with same | later
    · cases same
      exact .inl (List.mem_map_of_mem inside)
    · exact .inr (ih later)

theorem leads_first {rest : Schema} (plain : ∀ inner, rule ≠ .nested inner) :
    Schema.LeadsTo ((key, rule) :: rest) [key] rule := .last List.lookup_cons_self plain

theorem leads_rest {rest : Schema} {first : Rule} (new : key ∉ rest.map (·.1)) (led : Schema.LeadsTo rest keys rule) :
    Schema.LeadsTo ((key, first) :: rest) keys rule := by
  have skipped {name : String} {rule : Rule} (found : rest.lookup name = some rule) :
      List.lookup name ((key, first) :: rest) = some rule := by
    have other : name ≠ key := by
      rintro rfl
      rw [Entries.lookup_eq_none.mpr new] at found
      cases found
    rw [List.lookup_cons, beq_false_of_ne other]
    exact found
  cases led with
  | last found plain => exact .last (skipped found) plain
  | inside found below => exact .inside (skipped found) below

theorem leads_leaf_keys (led : Schema.LeadsTo fields keys rule) : keys ∈ Schema.leafKeys fields := by
  induction led with
  | @last fields key rule found plain =>
    refine leaf_below (Entries.mem_of_lookup found) ?_
    cases rule with
    | nested inner => exact absurd rfl (plain inner)
    | _ => exact List.mem_singleton_self _
  | inside found rest ih => exact leaf_below (Entries.mem_of_lookup found) ih

/-- The keys of the leaf rules are those that lead to a rule that is not nested. -/
theorem leaf_keys_lead (fields : Schema) (distinct : (Schema.nodeKeys fields).Nodup) (keys : List String) :
    keys ∈ Schema.leafKeys fields ↔ ∃ rule, fields.LeadsTo keys rule := by
  constructor
  · intro member
    induction fields using Schema.induction generalizing keys with
    | nil => cases member
    | leaf key rule rest leaf ih =>
      obtain ⟨-, below, new⟩ := first_key_new distinct
      rw [Schema.leafKeys, leaf_keys_leaf leaf] at member
      rcases List.mem_cons.mp member with rfl | member
      · exact ⟨rule, leads_first (Rule.leaf_plain leaf)⟩
      · obtain ⟨found, led⟩ := ih below keys member
        exact ⟨found, leads_rest new led⟩
    | broken key fault rest ih =>
      obtain ⟨-, below, new⟩ := first_key_new distinct
      rcases List.mem_cons.mp member with rfl | member
      · exact ⟨_, leads_first nofun⟩
      · obtain ⟨found, led⟩ := ih below keys member
        exact ⟨found, leads_rest new led⟩
    | nested key inner rest inside after =>
      obtain ⟨own, below, new⟩ := first_key_new distinct
      rw [Schema.leafKeys, List.mem_append, List.mem_map] at member
      rcases member with ⟨deeper, member, rfl⟩ | member
      · obtain ⟨found, led⟩ := inside (List.nodup_cons.mp own).2 deeper member
        exact ⟨found, .inside List.lookup_cons_self led⟩
      · obtain ⟨found, led⟩ := after below keys member
        exact ⟨found, leads_rest new led⟩
  · rintro ⟨rule, led⟩
    exact leads_leaf_keys led

/-- Every outcome is shown in its own column. For a schema whose leaves can be listed, and
whose nodes, the leaves and the nested keys alike, have paths no two of which are the
same, the columns are the paths of the leaf rules in order, and the row of any report
that the schema ends with has one entry for each. It is what the keys of the leaf lead
to in the report; where they lead to nothing, because a nested key on the way has
failed as a whole, it is a failure. In the dictionary that the row is read from, the
column has an entry exactly if the leaf has an outcome, and no other one. -/
theorem outcomes_in_own_columns (validator : Validator) (host : Host σ) (data : Value) (separator : String)
    {columns : List String} (listed : validator.columns separator = .ok columns)
    (distinct : (Schema.nodePathsBelow separator "" validator.schema).Nodup)
    (returned : (validator.validate host data state).result = .ok report) :
    columns = (Schema.leafKeys validator.schema).map (joinPath separator "") ∧
    (Schema.leafKeys validator.schema).Nodup ∧
    (∀ keys, keys ∈ Schema.leafKeys validator.schema ↔ ∃ rule, Schema.LeadsTo validator.schema keys rule) ∧
    List.Forall₂ (fun keys shown => report.at? keys = some (.leaf shown) ∨
        shown = false ∧ report.at? keys = none ∧
          ∃ front back, keys = front ++ back ∧ back ≠ [] ∧ report.at? front = some (.leaf false))
      (Schema.leafKeys validator.schema) (report.rowValues separator columns) ∧
    ∀ keys ∈ Schema.leafKeys validator.schema, ∀ shown,
      (report.flatten separator).lookup (joinPath separator "" keys) = some shown ↔
        report.at? keys = some (.leaf shown) := by
  have gives := judge_fields_gives validator.schema (Judge.validate_returns.mp returned)
  have columns_eq : columns = (Schema.leafKeys validator.schema).map (joinPath separator "") := by
    unfold Validator.columns at listed
    split at listed
    · exact (Except.ok.inj listed).symm.trans (columns_joined validator.schema)
    · cases listed
  rw [NodePaths.node_paths_joined] at distinct
  have nodes : (Schema.nodeKeys validator.schema).Nodup := distinct.of_map _
  have leaves : ∀ keys ∈ Schema.leafKeys validator.schema, keys ∈ Schema.nodeKeys validator.schema :=
    (leaf_keys_within validator.schema).subset
  have looked : ∀ keys ∈ Schema.leafKeys validator.schema, ∀ shown,
      (report.flatten separator).lookup (joinPath separator "" keys) = some shown ↔
        report.at? keys = some (.leaf shown) := by
    intro keys member shown
    rw [flatten_lookup gives distinct (leaves keys member)]
    exact ⟨outcome_stands gives nodes, standing_outcome (.branch report) keys⟩
  refine ⟨columns_eq, nodes.sublist (leaf_keys_within validator.schema),
    leaf_keys_lead validator.schema nodes, ?_, looked⟩
  rw [columns_eq, Report.rowValues, List.map_map, List.forall₂_map_right_iff, List.forall₂_same]
  intro keys member
  obtain ⟨front, back, shown, rfl, found, last⟩ := covers gives keys member
  have stands := outcome_stands gives nodes found
  by_cases finished : back = []
  · subst finished
    rw [List.append_nil] at member ⊢
    rw [Function.comp_apply, (looked front member shown).mpr stands]
    exact .inl stands
  · have failed := last.resolve_left finished
    subst failed
    have nothing := beyond_leaf stands finished
    have absent : (report.flatten separator).lookup (joinPath separator "" (front ++ back)) = none := by
      rw [Option.eq_none_iff_forall_ne_some]
      intro shown entry
      rw [(looked _ member shown).mp entry] at nothing
      cases nothing
    rw [Function.comp_apply, absent]
    exact .inr ⟨rfl, nothing, front, back, rfl, finished, stands⟩

/-- An address that is a text: both of its columns show a failure, since the address has
failed as a whole, and every other column shows what stands under its key. -/
theorem walkthrough_own_columns :
    let data := Value.mapping .plain [("name", .text "Ada"), ("balance", .int 5), ("address", .text "London")]
    let report : Report := [("name", .leaf true), ("status", .leaf false), ("balance", .leaf true),
      ("tags", .leaf false), ("deleted", .leaf true), ("address", .leaf false)]
    let columns := ["name", "status", "balance", "tags", "deleted", "address.city", "address.zip"]
    Walkthrough.validator.columns "." = .ok columns ∧
    (Schema.nodePathsBelow "." "" Walkthrough.validator.schema).Nodup ∧
    (Walkthrough.validator.validate Walkthrough.host data []).result = .ok report ∧
    (report.flatten ".").lookup "address.city" = none ∧
    report.rowValues "." columns = [true, false, true, false, true, false, false] ∧
    List.Forall₂ (fun keys shown => report.at? keys = some (.leaf shown) ∨
        shown = false ∧ report.at? keys = none ∧
          ∃ front back, keys = front ++ back ∧ back ≠ [] ∧ report.at? front = some (.leaf false))
      (Schema.leafKeys Walkthrough.validator.schema) (report.rowValues "." columns) := by
  intro data report columns
  have listed : Walkthrough.validator.columns "." = .ok columns := rfl
  have distinct : (Schema.nodePathsBelow "." "" Walkthrough.validator.schema).Nodup := by decide
  have returned : (Walkthrough.validator.validate Walkthrough.host data []).result = .ok report := rfl
  obtain ⟨-, -, -, shown, -⟩ :=
    outcomes_in_own_columns Walkthrough.validator Walkthrough.host data "." listed distinct returned
  exact ⟨listed, distinct, returned, by decide, by decide, shown⟩

end OwnColumns
end RecordSchema
