import Mathlib.Data.List.Forall2
import RecordSchema.Proofs.EntryLists
import RecordSchema.Proofs.RuleSoundness
import RecordSchema.Walkthrough

/-! Leaves beside columns. Judging, listing the leaves of a report and listing
the columns of a schema are three recursions, each with prefixes of its own.
They are compared through blocks: the columns of a schema fall into consecutive
stretches, each of which a report answers with exactly one leaf. A stretch is a
single column, unless a nested rule met something that is no record; then it is
all the columns below that rule, possibly none. -/
namespace RecordSchema

/-- A stretch of columns and the path of the one leaf that a report has for it. -/
inductive Block where
  /-- The column of a rule that is not nested. -/
  | leaf (path : String)
  /-- The columns below a nested rule that failed as a whole. -/
  | refused (path : String) (columns : List String)

namespace Block

/-- The path of the leaf. -/
def path : Block → String
  | .leaf path | .refused path _ => path

/-- The columns of the stretch. -/
def columns : Block → List String
  | .leaf path => [path]
  | .refused _ columns => columns

/-- Whether the stretch belongs to a nested rule that failed as a whole. -/
def isRefused : Block → Bool
  | .leaf _ => false
  | .refused _ _ => true

/-- A leaf of a report answers a block: it has the path of the block, and it
has failed if the block is that of a refused rule. -/
def Answers (block : Block) (leaf : String × Bool) : Prop :=
  leaf.1 = block.path ∧ (block.isRefused = true → leaf.2 = false)

end Block

mutual
/-- The blocks of a rule at a path, given what is under its key. Below a nested
rule that meets no record nothing is walked any more, so only the outermost
refused rules have blocks. -/
def Rule.blocks (separator path : String) (slot : Option Value) : Rule → List Block
  | .nested fields => match Judge.record? slot with
    | some entries => Schema.blocksBelow separator path entries fields
    | none => [.refused path (Schema.columnsBelow separator path fields)]
  | _ => [.leaf path]
termination_by structural rule => rule

/-- The blocks of the fields below a path, given a record. -/
def Schema.blocksBelow (separator path : String) (entries : List (String × Value)) :
    List (String × Rule) → List Block
  | [] => []
  | (key, rule) :: rest =>
    rule.blocks separator (extendPath separator path key) (entries.lookup key) ++
      Schema.blocksBelow separator path entries rest
termination_by structural fields => fields
end

/-- The blocks of a schema, given the value that is judged. -/
def Schema.blocks (separator : String) (schema : Schema) (data : Value) : List Block :=
  Schema.blocksBelow separator "" (data.entries?.getD []) schema

namespace LeafPaths

variable {σ : Type} {judge : Judge σ} {separator path place key : String} {entries : List (String × Value)}
  {slot : Option Value} {rule : Rule} {fields : Schema} {report : Report} {verdict : Verdict} {state : σ}

theorem blocks_leaf (leaf : rule.kind? ≠ some .nested) : rule.blocks separator path slot = [.leaf path] := by
  cases rule with
  | nested fields => simp [Rule.kind?] at leaf
  | _ => rfl

theorem columns_leaf (leaf : rule.kind? ≠ some .nested) : rule.columns separator path = [path] := by
  cases rule with
  | nested fields => simp [Rule.kind?] at leaf
  | _ => rfl

theorem blocks_record (record : Judge.record? slot = some entries) :
    (Rule.nested fields).blocks separator path slot = Schema.blocksBelow separator path entries fields := by
  simp [Rule.blocks, record]

theorem blocks_refused (refused : Judge.record? slot = none) :
    (Rule.nested fields).blocks separator path slot =
      [.refused path (Schema.columnsBelow separator path fields)] := by
  simp [Rule.blocks, refused]

/-- Blocks divide the columns: put together in order they are all of them. -/
theorem blocks_columns (fields : Schema) :
    (Schema.blocksBelow separator path entries fields).flatMap Block.columns =
      Schema.columnsBelow separator path fields := by
  induction fields using Schema.induction generalizing path entries with
  | nil => rfl
  | leaf key rule rest leaf ih =>
    simp [Schema.blocksBelow, Schema.columnsBelow, blocks_leaf leaf, columns_leaf leaf, Block.columns, ih]
  | broken key fault rest ih =>
    simp [Schema.blocksBelow, Schema.columnsBelow, Rule.blocks, Rule.columns, Block.columns, ih]
  | nested key inner rest inside below =>
    rw [Schema.blocksBelow, Schema.columnsBelow, List.flatMap_append, below, Rule.columns]
    congr 1
    cases record : Judge.record? (entries.lookup key) with
    | none => simp [blocks_refused record, Block.columns]
    | some found => rw [blocks_record record, inside]

/-- The leaf of a verdict for a rule that is not nested answers its block. -/
private theorem leaf_answers (passed : Bool) :
    List.Forall₂ Block.Answers [.leaf path] ((Verdict.leaf passed).leaves separator path) :=
  .cons ⟨rfl, fun refused => by cases refused⟩ .nil

/-- Judging fields gives exactly one leaf for each block, in order. The path
that judging builds for warnings is another one than that of the leaves, so the
two are not related here. -/
theorem judge_fields_answers (fields : Schema)
    (returned : (judge.judgeFields path entries fields state).result = .ok report) :
    List.Forall₂ Block.Answers (Schema.blocksBelow separator place entries fields)
      (Report.leavesBelow separator place report) := by
  induction fields using Schema.induction generalizing path place entries report state with
  | nil =>
    rw [Judge.judge_fields_nil_returns] at returned
    subst returned
    exact .nil
  | leaf key rule rest leaf ih =>
    obtain ⟨verdict, below, first, second, rfl⟩ := Judge.judge_fields_cons_returns.mp returned
    rw [Judge.judge_field_leaf leaf, Action.map_returns] at first
    obtain ⟨passed, -, rfl⟩ := first
    rw [Schema.blocksBelow, Report.leavesBelow, blocks_leaf leaf]
    exact List.rel_append (leaf_answers passed) (ih second)
  | broken key fault rest ih =>
    obtain ⟨verdict, below, first, second, rfl⟩ := Judge.judge_fields_cons_returns.mp returned
    cases Judge.judge_field_broken_returns first
    exact List.rel_append (leaf_answers false) (ih second)
  | nested key inner rest inside after =>
    obtain ⟨verdict, below, first, second, rfl⟩ := Judge.judge_fields_cons_returns.mp returned
    rw [Schema.blocksBelow, Report.leavesBelow]
    refine List.rel_append ?_ (after second)
    cases record : Judge.record? (entries.lookup key) with
    | none =>
      rw [Judge.judge_field_refused record, Judge.refuse_nested_run] at first
      cases first
      rw [blocks_refused record]
      exact .cons ⟨rfl, fun _ => rfl⟩ .nil
    | some found =>
      rw [Judge.judge_field_record record, Action.map_returns] at first
      obtain ⟨report, judged, rfl⟩ := first
      rw [blocks_record record, Verdict.leaves]
      exact inside judged

/-- The leaves of the report of a validator answer the blocks of its schema. -/
theorem validate_answers {validator : Validator} {host : Host σ} {data : Value}
    (returned : (validator.validate host data state).result = .ok report) (separator : String) :
    List.Forall₂ Block.Answers (validator.schema.blocks separator data) (report.leaves separator) :=
  judge_fields_answers validator.schema (Judge.validate_returns.mp returned)

theorem answers_paths {blocks : List Block} {leaves : List (String × Bool)}
    (answered : List.Forall₂ Block.Answers blocks leaves) : leaves.map (·.1) = blocks.map Block.path := by
  induction answered with
  | nil => rfl
  | cons answer rest ih => simp [answer.1, ih]

theorem columns_of_no_refusal {blocks : List Block} (whole : ∀ block ∈ blocks, block.isRefused = false) :
    blocks.flatMap Block.columns = blocks.map Block.path := by
  induction blocks with
  | nil => rfl
  | cons block rest ih =>
    rw [List.forall_mem_cons] at whole
    cases block with
    | leaf path => simp [Block.columns, Block.path, ih whole.2]
    | refused path columns => cases whole.1

/-- The leaves of a report mirror the columns of a sound schema. The columns
fall into blocks, and the report has one leaf for every block, in order and at
its path: its own column for a rule that is not nested, and the path of the
nested key, with a failure, in the place of all columns below an outermost
nested rule under whose key something other than a record is present. So where
nothing was refused the leaf paths are the columns, and the flattened report
has each of them once, where it stands first. -/
theorem leaves_mirror_columns (validator : Validator) (host : Host σ) (data : Value) (separator : String)
    (sound : Schema.isSound validator.schema = true)
    (returned : (validator.validate host data state).result = .ok report) :
    ∃ columns, validator.columns separator = .ok columns ∧
      columns = (validator.schema.blocks separator data).flatMap Block.columns ∧
      List.Forall₂ Block.Answers (validator.schema.blocks separator data) (report.leaves separator) ∧
      ((∀ block ∈ validator.schema.blocks separator data, block.isRefused = false) →
        (report.leaves separator).map (·.1) = columns ∧
        (report.flatten separator).map (·.1) = columns.eraseDups) := by
  have answered := validate_answers returned separator
  have divided : validator.schema.columns separator =
      (validator.schema.blocks separator data).flatMap Block.columns := (blocks_columns _).symm
  refine ⟨_, RuleSoundness.sound_columns sound separator, divided, answered, fun whole => ?_⟩
  have paths : (report.leaves separator).map (·.1) = validator.schema.columns separator := by
    rw [answers_paths answered, divided, columns_of_no_refusal whole]
  exact ⟨paths, by rw [Report.flatten, Entries.keys_of_pairs, paths]⟩

/-- In the walkthrough an address that is a text fails as a whole: two columns
are answered by one leaf, at the path of the address itself. -/
theorem walkthrough_leaves_mirror :
    let data := Value.mapping .plain [("name", .text "Ada"), ("balance", .int 5), ("address", .text "London")]
    let report : Report := [("name", .leaf true), ("status", .leaf false), ("balance", .leaf true),
      ("tags", .leaf false), ("deleted", .leaf true), ("address", .leaf false)]
    Schema.isSound Walkthrough.validator.schema = true ∧
    (Walkthrough.validator.validate Walkthrough.host data []).result = .ok report ∧
    Walkthrough.validator.schema.blocks "." data = [.leaf "name", .leaf "status", .leaf "balance",
      .leaf "tags", .leaf "deleted", .refused "address" ["address.city", "address.zip"]] ∧
    ∃ columns, Walkthrough.validator.columns "." = .ok columns ∧
      List.Forall₂ Block.Answers (Walkthrough.validator.schema.blocks "." data) (report.leaves ".") := by
  intro data report
  have sound : Schema.isSound Walkthrough.validator.schema = true := rfl
  have returned : (Walkthrough.validator.validate Walkthrough.host data []).result = .ok report := rfl
  obtain ⟨columns, listed, -, answered, -⟩ :=
    leaves_mirror_columns Walkthrough.validator Walkthrough.host data "." sound returned
  exact ⟨sound, returned, rfl, columns, listed, answered⟩

end LeafPaths
end RecordSchema
