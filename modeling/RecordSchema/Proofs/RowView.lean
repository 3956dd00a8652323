import Mathlib.Data.List.Pairwise
import RecordSchema.Proofs.LeafPaths
import RecordSchema.Proofs.NodePaths
import RecordSchema.Walkthrough

/-! Rows beside trees. A row has a truth value for every column of a schema, a
tree a truth value for every leaf. Under distinct node paths every column shows
the outcome of the leaf that answers its block, so a row has a failure for each
failed leaf that has a column. A nested rule without columns that meets no
record fails in the tree alone. -/
namespace RecordSchema

/-- Of a row comes a certain record. -/
def Row.Makes (row : Row) (record : List (String × Value)) : Prop := recordOfRow row.cells = .ok record

/-- The path of a block, and those of its columns that are nodes of their own. -/
def Block.nodes : Block → List String
  | .leaf path => [path]
  | .refused path columns => path :: columns

/-- Whether judging a value fails where no column can show it: under the key of
some nested rule that has no columns there is something other than a record. -/
def Schema.hidesFailure (schema : Schema) (data : Value) : Bool :=
  (schema.blocks defaultSeparator data).any (·.columns.isEmpty)

/-- Whether a row passes tells whether the tree of a value is valid, except that
it cannot show hidden failures. -/
def Schema.RowTells (schema : Schema) (data : Value) (report : Report) (passes : Bool) : Prop :=
  report.isValid = (passes && !schema.hidesFailure data)

namespace RowView

variable {σ : Type} {separator path : String} {entries : List (String × Value)} {state : σ}
  {blocks : List Block} {leaves : List (String × Bool)}

theorem columns_within_nodes (fields : Schema) :
    (Schema.columnsBelow separator path fields).Sublist (Schema.nodePathsBelow separator path fields) := by
  induction fields using Schema.induction generalizing path with
  | nil => exact .slnil
  | leaf key rule rest leaf ih =>
    rw [Schema.columnsBelow, Schema.nodePathsBelow, LeafPaths.columns_leaf leaf, NodePaths.node_paths_leaf leaf]
    exact (List.Sublist.refl _).append ih
  | broken key fault rest ih => exact (List.Sublist.refl _).append ih
  | nested key inner rest inside below =>
    rw [Schema.columnsBelow, Schema.nodePathsBelow, Rule.columns, Rule.nodePaths]
    exact (inside.cons _).append below

/-- The paths that blocks mention are paths of nodes, each mentioned as often as
there are nodes with it. -/
theorem blocks_within_nodes (fields : Schema) :
    ((Schema.blocksBelow separator path entries fields).flatMap Block.nodes).Sublist
      (Schema.nodePathsBelow separator path fields) := by
  induction fields using Schema.induction generalizing path entries with
  | nil => exact .slnil
  | leaf key rule rest leaf ih =>
    rw [Schema.blocksBelow, Schema.nodePathsBelow, LeafPaths.blocks_leaf leaf, NodePaths.node_paths_leaf leaf]
    exact (List.Sublist.refl _).append ih
  | broken key fault rest ih => exact (List.Sublist.refl _).append ih
  | nested key inner rest inside below =>
    rw [Schema.blocksBelow, Schema.nodePathsBelow, List.flatMap_append, Rule.nodePaths]
    refine List.Sublist.append ?_ below
    cases record : Judge.record? (entries.lookup key) with
    | none =>
      rw [LeafPaths.blocks_refused record]
      simpa [Block.nodes] using columns_within_nodes inner
    | some found =>
      rw [LeafPaths.blocks_record record]
      exact inside.cons _

private theorem paths_within_nodes (blocks : List Block) :
    (blocks.map Block.path).Sublist (blocks.flatMap Block.nodes) := by
  induction blocks with
  | nil => exact .slnil
  | cons block rest ih =>
    rw [List.map_cons, List.flatMap_cons]
    cases block with
    | leaf path => exact (List.Sublist.refl [path]).append ih
    | refused path columns => exact (List.singleton_sublist.mpr (List.mem_cons_self ..)).append ih

/-- A column of a refused rule is the path of no leaf of the report. -/
private theorem refused_column_absent {path column : String} {columns : List String}
    (distinct : (blocks.flatMap Block.nodes).Nodup) (member : Block.refused path columns ∈ blocks)
    (below : column ∈ columns) : column ∉ blocks.map Block.path := by
  intro leaf
  obtain ⟨block, member', rfl⟩ := List.mem_map.mp leaf
  obtain ⟨own, apart⟩ := List.nodup_flatMap.mp distinct
  by_cases same : block = .refused path columns
  · subst same
    exact (List.nodup_cons.mp (own _ member)).1 below
  · have : Std.Symm (Function.onFun List.Disjoint Block.nodes) := ⟨fun _ _ => List.disjoint_symm⟩
    have disjoint := apart.forall member' member same
    refine disjoint ?_ (List.mem_cons_of_mem _ below)
    cases block <;> simp [Block.nodes, Block.path]

/-- Every column shows the outcome of the leaf that answers its block. -/
theorem row_of_answers (answered : List.Forall₂ Block.Answers blocks leaves)
    (distinct : (blocks.flatMap Block.nodes).Nodup) :
    (blocks.flatMap Block.columns).map (fun column => (leaves.lookup column).getD false) =
      (blocks.zip leaves).flatMap fun pair => pair.1.columns.map fun _ => pair.2.2 := by
  have paths := LeafPaths.answers_paths answered
  have leavesDistinct : (leaves.map (·.1)).Nodup := by
    rw [paths]
    exact distinct.sublist (paths_within_nodes blocks)
  obtain ⟨lengths, answers⟩ := List.forall₂_iff_zip.mp answered
  have shown (block : Block) (leaf : String × Bool) (member : (block, leaf) ∈ blocks.zip leaves)
      (column : String) (own : column ∈ block.columns) : (leaves.lookup column).getD false = leaf.2 := by
    obtain ⟨place, failed⟩ := answers member
    obtain ⟨inBlocks, inLeaves⟩ := List.of_mem_zip member
    cases block with
    | leaf path =>
      have found := Entries.lookup_of_mem leavesDistinct inLeaves
      rw [List.mem_singleton.mp own, ← show leaf.1 = path from place, found, Option.getD_some]
    | refused path columns =>
      have absent := refused_column_absent distinct inBlocks own
      rw [← paths, ← Entries.lookup_eq_none] at absent
      rw [absent, failed rfl, Option.getD_none]
  have first : blocks = (blocks.zip leaves).map (·.1) := (List.map_fst_zip (by omega)).symm
  conv_lhs => rw [first]
  rw [List.flatMap_map, List.map_flatMap]
  exact List.flatMap_congr fun pair member => List.map_congr_left (shown pair.1 pair.2 member)

private theorem all_shown (columns : List String) (passed : Bool) :
    (columns.map fun _ => passed).all id = (columns.isEmpty || passed) := by
  cases columns with
  | nil => rfl
  | cons column rest => cases passed <;> simp

/-- All leaves pass exactly if all columns do and no block is without columns. -/
theorem valid_of_answers (answered : List.Forall₂ Block.Answers blocks leaves) :
    leaves.all (·.2) =
      (((blocks.zip leaves).flatMap fun pair => pair.1.columns.map fun _ => pair.2.2).all id &&
        !blocks.any (·.columns.isEmpty)) := by
  induction answered with
  | nil => rfl
  | @cons block leaf blocks leaves answer rest ih =>
    rw [List.all_cons, ih, List.zip_cons_cons, List.flatMap_cons, List.all_append, all_shown, List.any_cons]
    cases block with
    | leaf path => simp [Block.columns, Bool.and_assoc]
    | refused path columns =>
      simp only [answer.2 rfl, Block.columns, Bool.or_false, Bool.false_and]
      cases columns.isEmpty <;> simp only [Bool.false_and, Bool.true_or, Bool.not_true, Bool.and_false]

variable {validator : Validator} {host : Host σ} {data : Value} {report : Report}

/-- Where the nodes of a schema have different paths, a row shows in every
column the outcome of the leaf that answers its block. -/
theorem row_values_shown (distinct : (Schema.nodePathsBelow separator "" validator.schema).Nodup)
    (returned : (validator.validate host data state).result = .ok report) :
    report.rowValues separator (validator.schema.columns separator) =
      ((validator.schema.blocks separator data).zip (report.leaves separator)).flatMap
        fun pair => pair.1.columns.map fun _ => pair.2.2 := by
  have answered := LeafPaths.validate_answers returned separator
  have nodes : ((validator.schema.blocks separator data).flatMap Block.nodes).Nodup :=
    distinct.sublist (blocks_within_nodes _)
  have leavesDistinct : ((report.leaves separator).map (·.1)).Nodup := by
    rw [LeafPaths.answers_paths answered]
    exact nodes.sublist (paths_within_nodes _)
  rw [Report.rowValues, Report.flatten, Entries.of_pairs_distinct leavesDistinct, Schema.columns,
    ← LeafPaths.blocks_columns validator.schema]
  exact row_of_answers answered nodes

/-- A row passes exactly if the tree is valid or hides its failures. -/
theorem row_tells (distinct : Schema.hasDistinctKeys validator.schema = true)
    (plain : Schema.allKeys (isPlainKey defaultSeparator) validator.schema = true)
    (returned : (validator.validate host data state).result = .ok report) :
    validator.schema.RowTells data report
      ((report.rowValues defaultSeparator (validator.schema.columns defaultSeparator)).all id) := by
  rw [row_values_shown (NodePaths.node_paths_nodup (by decide) distinct plain) returned, Schema.RowTells,
    Report.isValid, valid_of_answers (LeafPaths.validate_answers returned defaultSeparator), Schema.hidesFailure]

/-- The same for each value of a run. -/
theorem rows_tell {records : List Value} {reports : List Report}
    (distinct : Schema.hasDistinctKeys validator.schema = true)
    (plain : Schema.allKeys (isPlainKey defaultSeparator) validator.schema = true)
    (returned : ((validator.judge host).validateAll validator.schema records state).result = .ok reports) :
    List.Forall₂ (fun judged row => validator.schema.RowTells judged.1 judged.2 (row.all id))
      (records.zip reports)
      (reports.map (·.rowValues defaultSeparator (validator.schema.columns defaultSeparator))) := by
  have judged := Judge.validate_all_returns returned
  clear returned
  induction judged with
  | nil => exact .nil
  | cons first rest ih =>
    obtain ⟨before, returned⟩ := first
    exact .cons (row_tells distinct plain returned) ih

/-- Rows that make records are judged as these, one after another. -/
theorem judge_rows_reports {rows : List Row} {records : List (List (String × Value))} (columns : List String)
    (made : List.Forall₂ Row.Makes rows records) :
    Table.judgeRows validator host separator columns rows =
      (List.map (·.rowValues separator columns)) <$>
        (validator.judge host).validateAll validator.schema (records.map (.mapping .plain)) := by
  induction made with
  | nil => rfl
  | cons makes _ ih =>
    rw [Row.Makes] at makes
    simp [Table.judgeRows, Judge.validateAll, Validator.validate, makes, ih, map_bind]

/-- Rows are judged only if every one of them makes a record. -/
theorem judge_rows_made {rows : List Row} {columns : List String} {outcomes : List (List Bool)}
    (returned : (Table.judgeRows validator host separator columns rows state).result = .ok outcomes) :
    ∃ records, List.Forall₂ Row.Makes rows records := by
  induction rows generalizing state outcomes with
  | nil => exact ⟨[], .nil⟩
  | cons row rows ih =>
    simp only [Table.judgeRows, Action.bind_returns, Action.map_returns, Action.of_except_run] at returned
    obtain ⟨record, makes, _, _, _, others, _⟩ := returned
    obtain ⟨records, made⟩ := ih others
    exact ⟨record :: records, .cons makes made⟩

/-- What the rows of a table amount to. -/
theorem valid_rows_reports {table : Table} {columns : List String} {valid : List Bool}
    (listed : validator.columns defaultSeparator = .ok columns)
    (returned : (table.validRows validator host state).result = .ok valid) :
    ∃ records reports, List.Forall₂ Row.Makes table.rows records ∧
      ((validator.judge host).validateAll validator.schema (records.map (.mapping .plain)) state).result =
        .ok reports ∧
      valid = (reports.map (·.rowValues defaultSeparator columns)).map (·.all id) := by
  simp only [Table.validRows, Table.validate, listed, Action.bind_returns, Action.of_except_ok,
    Action.pure_run] at returned
  obtain ⟨⟨_, outcomes⟩, ⟨_, same, rows, judged, _, _, shown⟩, counted⟩ := returned
  cases same
  cases shown
  cases counted
  obtain ⟨records, made⟩ := judge_rows_made judged
  rw [judge_rows_reports columns made, Action.map_returns] at judged
  obtain ⟨reports, judged, rfl⟩ := judged
  exact ⟨records, reports, made, judged, rfl⟩

/-- A row tells whether the tree is valid up to hidden failures, for a schema
whose keys are distinct, not empty and without the separator: row and tree agree
on a value exactly unless it hides a failure and all columns pass. So it is for
the rows of a table, each judged as the record that it makes, and for the rows
that a run over records writes as comma-separated text. -/
theorem rows_tell_validity (validator : Validator) (columns : List String)
    (distinct : Schema.hasDistinctKeys validator.schema = true)
    (plain : Schema.allKeys (isPlainKey defaultSeparator) validator.schema = true)
    (listed : validator.columns defaultSeparator = .ok columns) :
    (∀ (host : Host σ) data state report, (validator.validate host data state).result = .ok report →
      let passes := (report.rowValues defaultSeparator columns).all id
      validator.schema.RowTells data report passes ∧
        (passes = report.isValid ↔ ¬ (validator.schema.hidesFailure data = true ∧ passes = true))) ∧
    (∀ (host : Host σ) (table : Table) state valid, (table.validRows validator host state).result = .ok valid →
      ∃ records reports, List.Forall₂ Row.Makes table.rows records ∧
        let judged := records.map (Value.mapping .plain)
        ((validator.judge host).validateAll validator.schema judged state).result = .ok reports ∧
        List.Forall₂ (fun judged passes => validator.schema.RowTells judged.1 judged.2 passes)
          (judged.zip reports) valid) ∧
    (∀ (settings : CommandLine.Settings) level (records : Records) reports, settings.format = .csv →
      ((validator.judge CommandLine.noCalls).validateAll validator.schema records.items ()).result = .ok reports →
      let rows := reports.map (·.rowValues defaultSeparator columns)
      (CommandLine.judge settings level validator records).output =
        String.ofList (CommandLine.trimLineFeeds (Csv.writeTable columns rows)) ++ "\n" ∧
      List.Forall₂ (fun judged row => validator.schema.RowTells judged.1 judged.2 (row.all id))
        (records.items.zip reports) rows) := by
  have listing : validator.schema.columns defaultSeparator = columns := by
    unfold Validator.columns at listed
    split at listed
    · exact Except.ok.inj listed
    · cases listed
  subst listing
  refine ⟨fun host data state report returned => ?_, fun host table state valid returned => ?_,
    fun settings level records reports csv judged => ?_⟩
  · have told := row_tells distinct plain returned
    refine ⟨told, ?_⟩
    rw [told]
    cases List.all _ id <;> cases Schema.hidesFailure _ data <;> simp
  · obtain ⟨records, reports, made, judged, rfl⟩ := valid_rows_reports listed returned
    exact ⟨records, reports, made, judged, List.forall₂_map_right_iff.mpr (rows_tell distinct plain judged)⟩
  · refine ⟨?_, rows_tell distinct plain judged⟩
    simp only [CommandLine.judge, judged, csv, CommandLine.render]
    split <;> rfl

/-- The walkthrough record fails in its row as it does in its tree. -/
theorem walkthrough_row_tells :
    Schema.hasDistinctKeys Walkthrough.validator.schema = true ∧
    Schema.allKeys (isPlainKey defaultSeparator) Walkthrough.validator.schema = true ∧
    Walkthrough.validator.columns defaultSeparator =
      .ok ["name", "status", "balance", "tags", "deleted", "address.city", "address.zip"] ∧
    (Walkthrough.validator.validate Walkthrough.host Walkthrough.record []).result = .ok Walkthrough.report ∧
    Walkthrough.validator.schema.RowTells Walkthrough.record Walkthrough.report false :=
  ⟨by decide, by decide, rfl, rfl,
    ((rows_tell_validity Walkthrough.validator _ (by decide) (by decide) rfl).1
      Walkthrough.host Walkthrough.record [] Walkthrough.report rfl).1⟩

/-- A section without fields under whose key a number stands: the only leaf of
the tree has failed, and the row, which has no column, passes. -/
theorem hidden_failure_passes :
    let validator : Validator := ⟨Value.ruleEntries [("a", .mapping .plain [])], validatorLogger⟩
    let report : Report := [("a", .leaf false)]
    Schema.hasDistinctKeys validator.schema = true ∧
    Schema.allKeys (isPlainKey defaultSeparator) validator.schema = true ∧
    (validator.validate CommandLine.noCalls (.mapping .plain [("a", .int 5)]) ()).result = .ok report ∧
    report.isValid = false ∧
    validator.columns defaultSeparator = .ok [] ∧
    (report.rowValues defaultSeparator []).all id = true ∧
    (Table.validRows validator CommandLine.noCalls ⟨[⟨[("a", .int 5)], by decide⟩]⟩ ()).result = .ok [true] :=
  ⟨by decide, by decide, rfl, by decide, rfl, rfl, rfl⟩

end RowView
end RecordSchema
