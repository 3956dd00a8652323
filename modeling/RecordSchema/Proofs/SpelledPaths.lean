import RecordSchema.CommandLine
import RecordSchema.Proofs.OwnColumns
import RecordSchema.Proofs.WarnedLeaves

/-! Paths as the keys that they spell. Leaves, columns and warnings get their paths from
three walks, each of which puts one key after another behind the path so far. What comes
out is the same for all of them: the keys with the separator between them, except that an
empty path is taken for the top, so empty keys at the start leave no trace. A path spells
out all of its keys exactly if there are none to lose, or nothing would stand behind
them. -/
namespace RecordSchema

/-- Keys spelt out as a path: put together with the separator between them, without the
empty ones that they start with. -/
def spelledPath (separator : String) (keys : List String) : String :=
  separator.intercalate (keys.dropWhile (·.isEmpty))

/-- The keys lead through nested rules of a schema to a field, whatever its rule. -/
inductive Schema.FieldAt : Schema → List String → Rule → Prop where
  | here {fields : Schema} {key : String} {rule : Rule} (member : (key, rule) ∈ fields) :
      Schema.FieldAt fields [key] rule
  | inside {fields inner : Schema} {key : String} {keys : List String} {rule : Rule}
      (member : (key, .nested inner) ∈ fields) (below : Schema.FieldAt inner keys rule) :
      Schema.FieldAt fields (key :: keys) rule

variable {σ : Type}

/-- A notice is told of a field itself and not of what is below it: keys lead to the field
in a schema and to its slot in a record, there is no record in the slot that a nested rule
would walk into, and a logger is told of the notice when the slot is judged at a path. -/
def Judge.TellsOf (judge : Judge σ) (schema : Schema) (entries : List (String × Value)) (keys : List String)
    (path : String) (notice : Notice) : Prop :=
  ∃ rule slot before logger, schema.FieldAt keys rule ∧ Value.Reaches entries keys slot ∧
    (∀ inner, rule = .nested inner → Judge.record? slot = none) ∧
    .logged logger notice ∈ (judge.judgeField path slot rule before).events

/-- A notice is told of some field of a schema at the path that the keys of the field lead to
from a path, and has this path. -/
def Judge.TellsBelow (judge : Judge σ) (schema : Schema) (entries : List (String × Value)) (path : String)
    (notice : Notice) : Prop :=
  ∃ keys, judge.TellsOf schema entries keys (joinPath defaultSeparator path keys) notice ∧
    notice.path? = some (joinPath defaultSeparator path keys)

namespace SpelledPaths

variable {judge : Judge σ} {separator path key : String} {keys : List String} {slot : Option Value} {rule : Rule}
  {fields rest : Schema} {entries record : List (String × Value)} {notice : Notice} {logger : String}
  {state : σ}

/-! ## Keys in a path -/

/-- Behind a path that is not empty, every key is put after a separator. -/
theorem join_path_below (keys : List String) (below : path ≠ "") :
    joinPath separator path keys = separator.intercalate (path :: keys) := by
  induction keys generalizing path with
  | nil => rw [String.intercalate_singleton]; rfl
  | cons key keys ih =>
    have next : extendPath separator path key = path ++ separator ++ key := by simp [extendPath, below]
    rw [NodePaths.join_path_cons, next, ih (by simp [below]), String.intercalate_cons_append,
      String.intercalate_cons_cons]

/-- From the top, keys lead to the path that they are spelt out as. -/
theorem join_path_spelled (separator : String) (keys : List String) :
    joinPath separator "" keys = spelledPath separator keys := by
  induction keys with
  | nil => rw [spelledPath, List.dropWhile_nil, String.intercalate_nil]; rfl
  | cons key keys ih =>
    have start : extendPath separator "" key = key := by simp [extendPath]
    rw [NodePaths.join_path_cons, start]
    by_cases empty : key = ""
    · rw [empty, ih]
      rfl
    · have kept : (key :: keys).dropWhile (·.isEmpty) = key :: keys := by simp [empty]
      rw [join_path_below keys empty, spelledPath, kept]

theorem spelled_length (separator : String) (keys : List String) :
    (spelledPath separator keys).length ≤ (separator.intercalate keys).length := by
  induction keys with
  | nil => exact Nat.le_refl _
  | cons key keys ih =>
    by_cases empty : key = ""
    · subst empty
      cases keys with
      | nil => simp [spelledPath]
      | cons next others =>
        have skipped : spelledPath separator ("" :: next :: others) = spelledPath separator (next :: others) := rfl
        rw [skipped, String.intercalate_cons_cons, String.length_append]
        exact Nat.le_trans ih (Nat.le_add_left _ _)
    · have kept : (key :: keys).dropWhile (·.isEmpty) = key :: keys := by simp [empty]
      exact Nat.le_of_eq (by rw [spelledPath, kept])

/-- A path spells out all of its keys unless it starts with an empty one that another key
comes after, and there is something that would have to stand between the two. -/
theorem spelled_in_full : spelledPath separator keys = separator.intercalate keys ↔
    separator = "" ∨ ∀ rest, keys = "" :: rest → rest = [] := by
  induction keys with
  | nil => simp [spelledPath]
  | cons key keys ih =>
    by_cases empty : key = ""
    · subst empty
      cases keys with
      | nil => simp [spelledPath]
      | cons next others =>
        have skipped : spelledPath separator ("" :: next :: others) = spelledPath separator (next :: others) := rfl
        rw [skipped, String.intercalate_cons_cons]
        constructor
        · intro same
          have shorter := spelled_length separator (next :: others)
          rw [same, String.length_append, String.length_append] at shorter
          exact .inl (String.length_eq_zero_iff.mp (by omega))
        · rintro (rfl | none_after)
          · rw [ih.mpr (.inl rfl)]
            simp
          · cases none_after _ rfl
    · have kept : (key :: keys).dropWhile (·.isEmpty) = key :: keys := by simp [empty]
      simp [spelledPath, kept, empty]

/-- The leaves of a report are its outcomes, each under the path that its keys are spelt out as. -/
theorem leaves_spelled (separator : String) (report : Report) :
    report.leaves separator = (Report.outcomes report).map (Prod.map (spelledPath separator) id) := by
  have spelled : joinPath separator "" = spelledPath separator := funext (join_path_spelled separator)
  rw [Report.leaves, OwnColumns.leaves_joined, spelled]

/-! ## Paths of warnings -/

theorem moved_path (warning : notice.level = .warning) : (notice.moved path).path? = some path := by
  cases notice with
  | judged | rowsJudged => cases warning
  | _ => rfl

/-- Whatever a judge tells of at one path has this path. -/
private def placed (judge : Judge σ) (path : String) : judge.Likeness judge judge.host.Quiet where
  alike first _ := ∀ state logger notice, .logged logger notice ∈ (first state).events → notice.path? = some path
  returning _ _ _ _ left := nomatch left
  failing _ _ _ _ left := nomatch left
  sequence {_ _ first _ _ _} head tail state logger notice left := by
    rcases ran : first state with ⟨_ | a, middle, events⟩
    · rw [Action.bind_of_error ran] at left
      exact head state logger notice (by rw [ran]; exact left)
    · rw [Action.bind_of_ok ran] at left
      rcases List.mem_append.mp left with earlier | later
      · exact head state logger notice (by rw [ran]; exact earlier)
      · exact tail a middle logger notice later
  calls callee v quiet state logger notice left := by
    obtain ⟨result, after, ran⟩ := judge.holds_run callee v state
    rw [ran] at left
    rcases List.mem_cons.mp left with called | told
    · cases called
    · exact absurd told (quiet v state logger notice)
  records _ _ := False
  keys _ := true
  warnings _ _ _ never := never.elim
  inside _ _ _ never := never.elim

/-- Judging a field that is walked no further tells of it at its path. -/
theorem field_notice_path (closed : ∀ inner, rule = .nested inner → Judge.record? slot = none)
    (quiet : ∀ callee, .predicate callee ∈ rule.parts → judge.host.Quiet callee)
    (told : .logged logger notice ∈ (judge.judgeField path slot rule state).events) : notice.path? = some path := by
  have own : judge.WarnAlike judge (placed judge path).alike path path := by
    intro notice warning state logger other left
    cases List.mem_singleton.mp left
    exact moved_path warning
  by_cases nested : ∃ inner, rule = .nested inner
  · obtain ⟨inner, rfl⟩ := nested
    rw [Judge.judge_field_refused (closed inner rfl)] at told
    exact (placed judge path).refuse_nested slot own state logger notice told
  · have alike : (placed judge path).alike (judge.judgeField path slot rule) (judge.judgeField path slot rule) :=
      (placed judge path).judge_field slot own quiet fun inner _ same => absurd ⟨inner, same⟩ nested
    exact alike state logger notice told

/-- A notice of a field that is walked no further is told of this field. -/
theorem tells_of_first (quiet : ∀ callee, .predicate callee ∈ rule.parts → judge.host.Quiet callee)
    (closed : ∀ inner, rule = .nested inner → Judge.record? (entries.lookup key) = none)
    (left : .logged logger notice ∈
      (judge.judgeField (extendPath defaultSeparator path key) (entries.lookup key) rule state).events) :
    judge.TellsBelow ((key, rule) :: rest) entries path notice :=
  ⟨[key], ⟨rule, _, state, logger, .here List.mem_cons_self, .last entries key, closed, left⟩,
    field_notice_path closed quiet left⟩

theorem tells_of_rest (told : judge.TellsOf rest entries keys path notice) :
    judge.TellsOf ((key, rule) :: rest) entries keys path notice := by
  obtain ⟨own, slot, before, logger, placed, reached, closed, left⟩ := told
  refine ⟨own, slot, before, logger, ?_, reached, closed, left⟩
  cases placed with
  | here member => exact .here (List.mem_cons_of_mem _ member)
  | inside member below => exact .inside (List.mem_cons_of_mem _ member) below

theorem tells_of_inside {inner : Schema} (opens : Judge.record? (entries.lookup key) = some record)
    (told : judge.TellsOf inner record keys path notice) :
    judge.TellsOf ((key, .nested inner) :: rest) entries (key :: keys) path notice := by
  obtain ⟨own, slot, before, logger, placed, reached, closed, left⟩ := told
  exact ⟨own, slot, before, logger, .inside List.mem_cons_self placed,
    .inside (PathVerdicts.record_opens.mp opens) reached, closed, left⟩

/-- What judging fields leaves is left by the first one or by the others. -/
theorem tells_of_cons (first : .logged logger notice ∈
      (judge.judgeField (extendPath defaultSeparator path key) (entries.lookup key) rule state).events →
      judge.TellsBelow ((key, rule) :: rest) entries path notice)
    (others : ∀ middle, .logged logger notice ∈ (judge.judgeFields path entries rest middle).events →
      judge.TellsBelow rest entries path notice)
    (left : .logged logger notice ∈ (judge.judgeFields path entries ((key, rule) :: rest) state).events) :
    judge.TellsBelow ((key, rule) :: rest) entries path notice := by
  rw [Judge.judgeFields] at left
  rcases ran : judge.judgeField (extendPath defaultSeparator path key) (entries.lookup key) rule state with
    ⟨_ | verdict, middle, events⟩
  · rw [Action.bind_of_error ran] at left
    exact first (by rw [ran]; exact left)
  · rw [Action.bind_of_ok ran] at left
    rcases List.mem_append.mp left with earlier | later
    · exact first (by rw [ran]; exact earlier)
    · obtain ⟨keys, tells, named⟩ := others middle later
      exact ⟨keys, tells_of_rest tells, named⟩

/-- Every notice of a run over a record is told of a field, at the path that the keys of the
field lead to. -/
theorem judge_fields_tells (fields : Schema)
    (quiet : ∀ callee, .predicate callee ∈ Schema.parts fields → judge.host.Quiet callee)
    (told : .logged logger notice ∈ (judge.judgeFields path entries fields state).events) :
    judge.TellsBelow fields entries path notice := by
  induction fields using Schema.induction generalizing path entries state with
  | nil => nomatch told
  | leaf key rule rest leaf ih =>
    refine tells_of_cons (fun own => ?_)
      (fun middle later => ih (fun callee part => quiet callee (List.mem_append_right _ part)) later) told
    exact tells_of_first (fun callee part => quiet callee (List.mem_append_left _ part))
      (fun inner same => absurd same (Rule.leaf_plain leaf inner)) own
  | broken key fault rest ih =>
    refine tells_of_cons (fun own => ?_)
      (fun middle later => ih (fun callee part => quiet callee (List.mem_append_right _ part)) later) told
    exact tells_of_first (fun callee part => quiet callee (List.mem_append_left _ part)) nofun own
  | nested key inner rest inside after =>
    refine tells_of_cons (fun own => ?_)
      (fun middle later => after (fun callee part => quiet callee (List.mem_append_right _ part)) later) told
    have below := fun callee part => quiet callee (List.mem_append_left _ part)
    cases opens : Judge.record? (entries.lookup key) with
    | none => exact tells_of_first below (fun _ _ => opens) own
    | some record =>
      rw [Judge.judge_field_record opens] at own
      -- The walk below starts from the path with this key in it, so its keys come after the key.
      obtain ⟨keys, tells, named⟩ := inside below own
      exact ⟨key :: keys, tells_of_inside opens tells, named⟩

/-- A warning of a validation is one of the notices of the run over the record; the only
other notice is that of the report. -/
theorem warning_judged {validator : Validator} {host : Host σ} {data : Value} (warning : notice.level = .warning)
    (told : .logged logger notice ∈ (validator.validate host data state).events) :
    .logged logger notice ∈
      ((validator.judge host).judgeFields "" (data.entries?.getD []) validator.schema state).events := by
  obtain ⟨found, finds⟩ : ∃ found, validator.Finds host data state found := ⟨_, Validator.finds_iff.mpr rfl⟩
  rw [Validator.finds_iff.mp finds]
  rw [Validator.Finds] at finds
  rw [finds] at told
  rcases found with ⟨fault | report, after, events⟩
  · exact told
  · rcases List.mem_append.mp told with judged | recorded
    · exact judged
    · cases List.mem_singleton.mp recorded
      cases warning

/-- All paths spell keys, and all in the same way. The path of every leaf of a report, under
which it stands among the failures and in the dictionary, spells the keys that lead to the
leaf; the columns of a validator spell the keys of its leaf rules; and a warning of a
validation is told of a field of the schema at the path that spells the keys of the field,
as long as predicates tell no logger themselves. Spelling puts the separator between all
keys, unless the first key is empty and others follow: then the separators after the
empty keys at the start are missing. -/
theorem paths_spell_keys (separator : String) :
    (∀ report : Report,
      report.leaves separator = (Report.outcomes report).map (Prod.map (spelledPath separator) id) ∧
      report.failures separator =
        ((Report.outcomes report).filter (!·.2)).map (fun outcome => spelledPath separator outcome.1) ∧
      report.flatten separator =
        Entries.ofPairs ((Report.outcomes report).map (Prod.map (spelledPath separator) id)) ∧
      ∀ keys passed, report.at? keys = some (.leaf passed) → (keys, passed) ∈ Report.outcomes report) ∧
    (∀ (validator : Validator) columns, validator.columns separator = .ok columns →
      columns = (Schema.leafKeys validator.schema).map (spelledPath separator)) ∧
    (∀ (σ : Type) (validator : Validator) (host : Host σ) data state logger notice,
      (∀ callee, .predicate callee ∈ Schema.parts validator.schema → host.Quiet callee) →
      notice.level = .warning → .logged logger notice ∈ (validator.validate host data state).events →
      ∃ keys, (validator.judge host).TellsOf validator.schema (data.entries?.getD []) keys
          (spelledPath defaultSeparator keys) notice ∧
        notice.path? = some (spelledPath defaultSeparator keys)) ∧
    ∀ keys, spelledPath separator keys = separator.intercalate keys ↔
      separator = "" ∨ ∀ rest, keys = "" :: rest → rest = [] := by
  refine ⟨fun report => ⟨leaves_spelled separator report, ?_, ?_, ?_⟩, fun validator columns listed => ?_, ?_,
    fun keys => spelled_in_full⟩
  · rw [Report.failures, leaves_spelled, List.filter_map, List.map_map]
    rfl
  · rw [Report.flatten, leaves_spelled]
  · exact fun keys passed => OwnColumns.standing_outcome (.branch report) keys
  · unfold Validator.columns at listed
    split at listed
    · rw [← Except.ok.inj listed, Schema.columns, OwnColumns.columns_joined]
      exact List.map_congr_left fun keys _ => join_path_spelled separator keys
    · cases listed
  · intro σ validator host data state logger notice quiet warning told
    obtain ⟨keys, tells, named⟩ := judge_fields_tells validator.schema quiet (warning_judged warning told)
    rw [join_path_spelled] at tells named
    exact ⟨keys, tells, named⟩

/-- An age whose rule is none, below a key that is empty, below another one. The empty key is
spelt out by the leaf, by the column and by the warning alike, since it is not the first. -/
theorem inner_empty_key_spelt :
    let fields : List (String × Value) := [("user", .mapping .plain [("", .mapping .plain [("age", .int 5)])])]
    let validator : Validator := ⟨Value.ruleEntries fields, validatorLogger⟩
    let data := Value.mapping .plain [("user", .mapping .plain [("", .mapping .plain [("age", .int 1)])])]
    let report : Report := [("user", .branch [("", .branch [("age", .leaf false)])])]
    let notice := Notice.unrecognizedRule "user..age" (.int 5)
    validator.validate CommandLine.noCalls data () = ⟨.ok report, (),
      [.logged validatorLogger notice, .logged validatorLogger (.judged report)]⟩ ∧
    ".".intercalate ["user", "", "age"] = "user..age" ∧
    spelledPath "." ["user", "", "age"] = ".".intercalate ["user", "", "age"] ∧
    report.failures "." = [spelledPath "." ["user", "", "age"]] ∧
    validator.columns "." = .ok [spelledPath "." ["user", "", "age"]] ∧
    ∃ keys, (validator.judge CommandLine.noCalls).TellsOf validator.schema (data.entries?.getD []) keys
        (spelledPath defaultSeparator keys) notice ∧ notice.path? = some (spelledPath defaultSeparator keys) := by
  intro fields validator data report notice
  obtain ⟨leaves, columns, warnings, full⟩ := paths_spell_keys "."
  have judged : validator.validate CommandLine.noCalls data () = ⟨.ok report, (),
      [.logged validatorLogger notice, .logged validatorLogger (.judged report)]⟩ := rfl
  have spelt : spelledPath "." ["user", "", "age"] = ".".intercalate ["user", "", "age"] :=
    (full _).mpr (.inr (by simp))
  have listed : validator.columns "." = .ok ["user..age"] := rfl
  refine ⟨judged, by decide, spelt, (leaves report).2.1, ?_, ?_⟩
  · rw [listed, columns validator _ listed]
    rfl
  · refine warnings Unit validator CommandLine.noCalls data () validatorLogger notice ?_ rfl ?_
    · intro callee _ v state logger other told
      cases told
    · rw [judged]
      exact List.mem_cons_self

/-- An empty key at the start is not spelt out. A leaf below it has the path of another leaf,
which takes its place in the dictionary; the failure, the column and the warning of a
field below it are named as if the key were not there. -/
theorem first_empty_key_lost :
    let path := ".".intercalate ["", "a"]
    let report : Report := [("", .branch [("a", .leaf true)]), ("a", .leaf false)]
    let validator : Validator := ⟨Value.ruleEntries [("", .mapping .plain [("a", .int 5)])], validatorLogger⟩
    let data := Value.mapping .plain [("", .mapping .plain [("a", .int 1)])]
    let judged : Report := [("", .branch [("a", .leaf false)])]
    report.at? ["", "a"] = some (.leaf true) ∧ report.flatten "." = [("a", false)] ∧
    (report.flatten ".").lookup path = none ∧
    judged.at? ["", "a"] = some (.leaf false) ∧ path ∉ judged.failures "." ∧
    Schema.leafKeys validator.schema = [["", "a"]] ∧ validator.columns "." = .ok ["a"] ∧ path ≠ "a" ∧
    validator.validate CommandLine.noCalls data () = ⟨.ok judged, (),
      [.logged validatorLogger (.unrecognizedRule "a" (.int 5)), .logged validatorLogger (.judged judged)]⟩ :=
  ⟨rfl, by decide, by decide, rfl, by decide, rfl, rfl, by decide, rfl⟩

end SpelledPaths
end RecordSchema
