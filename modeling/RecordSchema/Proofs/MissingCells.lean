import RecordSchema.Proofs.MatchingParts
import RecordSchema.Proofs.RowView
import RecordSchema.Proofs.UnboundKeys

/-! Rows beside records. A row of a table is judged as the record that it makes, which lacks
the missing cells and is the row in everything else. Field by field, judging the record
and judging the row look at the same slot, unless the cell there is missing; then the record
is judged as absent there. Where predicates answer by their argument alone, no field
can tell that the ones before it were judged otherwise, so the two reports are compared
key by key.

Nothing is proved of how tables are read or their outcomes stored: a table is its rows, and a row is
the cells under their names. That no record is made of a row with a signalling decimal
in a cell, and that a comparison may be refused for what stands inside a cell, are the only ways in which
a table is left without outcomes. -/
namespace RecordSchema

variable {σ : Type}

/-- Under a key of a row stands a cell that counts as missing. -/
def Row.MissingAt (row : Row) (key : String) : Prop :=
  ∃ cell, row.cells.lookup key = some cell ∧ cell.isMissingCell = .ok true

/-- The record of a row is judged to a report, from whatever state. -/
def Row.JudgedTo (validator : Validator) (host : Host σ) (row : Row) (report : Report) : Prop :=
  ∃ record, row.Makes record ∧ (validator.validate host (.mapping .plain record)).Settles report

namespace MissingCells

variable {judge : Judge σ} {validator : Validator} {host : Host σ} {passes : Callable → Value → Bool}
  {path key name : String} {cells record entries : List (String × Value)} {row : Row} {cell v : Value} {rule : Rule}
  {fields : Schema} {report : Report} {verdict : Verdict} {state : σ} {separator : String}

/-! ## The record of a row -/

theorem record_cons : recordOfRow ((name, cell) :: cells) = .ok record ↔
    ∃ isMissing below, cell.isMissingCell = .ok isMissing ∧ recordOfRow cells = .ok below ∧
      record = if isMissing then below else (name, cell) :: below := by
  rw [recordOfRow]
  cases cell.isMissingCell with
  | error fault => exact ⟨nofun, nofun⟩
  | ok isMissing =>
    cases recordOfRow cells with
    | error fault => exact ⟨nofun, nofun⟩
    | ok below =>
      simp only [Except.ok.injEq, exists_eq_left', exists_and_left]
      exact ⟨fun made => (Except.ok.inj made).symm, fun made => congrArg _ made.symm⟩

/-- In the record of a row missing cells are absent, and everything else is as in the row. -/
theorem lookup_record (distinct : (cells.map (·.1)).Nodup) (made : recordOfRow cells = .ok record) (key : String) :
    ((∃ cell, cells.lookup key = some cell ∧ cell.isMissingCell = .ok true) ∧ record.lookup key = none) ∨
    ((∀ cell, cells.lookup key = some cell → cell.isMissingCell = .ok false) ∧
      record.lookup key = cells.lookup key) := by
  induction cells generalizing record with
  | nil =>
    cases made
    exact .inr ⟨nofun, rfl⟩
  | cons first rest ih =>
    obtain ⟨name, cell⟩ := first
    obtain ⟨isMissing, below, own, made_below, rfl⟩ := record_cons.mp made
    rw [List.map_cons, List.nodup_cons] at distinct
    have others := ih distinct.2 made_below
    by_cases same : key = name
    · subst same
      -- The key stands nowhere else in the row, so it is found at its cell or not at all.
      have nowhere : rest.lookup key = none := Entries.lookup_eq_none.mpr distinct.1
      cases isMissing with
      | true =>
        refine .inl ⟨⟨cell, List.lookup_cons_self, own⟩, ?_⟩
        rcases others with ⟨_, absent⟩ | ⟨_, alike⟩
        · exact absent
        · exact alike.trans nowhere
      | false => exact .inr ⟨by simpa using own, by simp⟩
    · have skipped (entries : List (String × Value)) : ((name, cell) :: entries).lookup key = entries.lookup key := by
        rw [List.lookup_cons, beq_false_of_ne same]
      cases isMissing <;> simpa [skipped] using others

theorem missing_absent (made : row.Makes record) (missing : row.MissingAt key) : record.lookup key = none := by
  rcases lookup_record row.distinct made key with ⟨_, absent⟩ | ⟨present, _⟩
  · exact absent
  · obtain ⟨cell, found, missing⟩ := missing
    cases (present cell found).symm.trans missing

theorem present_kept (made : row.Makes record) (present : ¬row.MissingAt key) :
    record.lookup key = row.cells.lookup key := by
  rcases lookup_record row.distinct made key with ⟨missing, _⟩ | ⟨_, alike⟩
  · exact absurd missing present
  · exact alike

/-- Containers are present, whatever they hold. -/
theorem entered_present (entered : v.isEntered = true) : v.isMissingCell = .ok false := by
  cases v with
  | list | tuple | named | set | mapping | rule => rfl
  | _ => cases entered

/-- A row makes a record unless a cell of it is a signalling decimal. -/
theorem record_made (quiet : ∀ entry ∈ cells, entry.2.isSignalling = false) :
    ∃ record, recordOfRow cells = .ok record := by
  induction cells with
  | nil => exact ⟨[], rfl⟩
  | cons first rest ih =>
    obtain ⟨name, cell⟩ := first
    obtain ⟨own, others⟩ := List.forall_mem_cons.mp quiet
    obtain ⟨below, made⟩ := ih others
    have told : ∃ isMissing, cell.isMissingCell = .ok isMissing := by
      cases cell with
      | decimal d =>
        have quiet : d.isSignalling = false := own
        rw [Value.isMissingCell, quiet]
        exact ⟨_, rfl⟩
      | _ => exact ⟨_, rfl⟩
    obtain ⟨isMissing, told⟩ := told
    exact ⟨_, record_cons.mpr ⟨isMissing, below, told, made, rfl⟩⟩

/-! ## Absent fields -/

theorem judge_leaf_absent_returns {passed : Bool}
    (returned : (judge.judgeLeaf path none rule state).result = .ok passed) : passed = rule.asksAbsence := by
  cases rule with
  | primitive tag => cases tag <;> cases returned <;> rfl
  | _ =>
    cases returned
    rfl

/-- What judging an absent field returns, if it does. The rules need not be sound here: one that
is not fails where it is judged, and nothing is returned. -/
theorem judge_field_absent_returns (inside : ∀ inner report state, rule = .nested inner →
      (judge.judgeFields path [] inner state).result = .ok report → report = Schema.blankReport inner)
    (returned : (judge.judgeField path none rule state).result = .ok verdict) : verdict = rule.blankVerdict := by
  by_cases leaf : rule.kind? = some .nested
  · cases rule with
    | nested inner =>
      have empty : Judge.record? none = some [] := rfl
      rw [Judge.judge_field_record empty] at returned
      obtain ⟨report, judged, rfl⟩ := Action.map_returns.mp returned
      rw [inside inner report state rfl judged, Rule.blankVerdict]
    | broken kind fault =>
      cases leaf
      cases returned
    | _ => cases leaf
  · rw [Judge.judge_field_leaf leaf] at returned
    obtain ⟨passed, judged, rfl⟩ := Action.map_returns.mp returned
    rw [judge_leaf_absent_returns judged, AbsentRecords.blank_verdict_leaf leaf]

/-- What judging absent fields returns, if it does, is the blank report. -/
theorem judge_fields_absent_returns (fields : Schema) (lacks : ∀ key ∈ fields.map (·.1), entries.lookup key = none)
    (returned : (judge.judgeFields path entries fields state).result = .ok report) :
    report = Schema.blankReport fields := by
  induction fields using Schema.induction generalizing path entries state report with
  | nil => exact Judge.judge_fields_nil_returns.mp returned
  | leaf key rule rest leaf ih =>
    obtain ⟨absent, others⟩ := List.forall_mem_cons.mp lacks
    obtain ⟨verdict, below, judged, judged', rfl⟩ := Judge.judge_fields_cons_returns.mp returned
    rw [absent] at judged
    have blank := judge_field_absent_returns (fun inner _ _ nested => absurd nested (Rule.leaf_plain leaf inner)) judged
    rw [Schema.blankReport, ih others judged', blank]
  | broken key fault rest ih =>
    obtain ⟨absent, -⟩ := List.forall_mem_cons.mp lacks
    obtain ⟨verdict, below, judged, -⟩ := Judge.judge_fields_cons_returns.mp returned
    rw [absent] at judged
    cases judged
  | nested key inner rest inside after =>
    obtain ⟨absent, others⟩ := List.forall_mem_cons.mp lacks
    obtain ⟨verdict, below, judged, judged', rfl⟩ := Judge.judge_fields_cons_returns.mp returned
    rw [absent] at judged
    have blank : verdict = (Rule.nested inner).blankVerdict := by
      apply judge_field_absent_returns _ judged
      rintro _ report state ⟨⟩ reported
      exact inside (by simp) reported
    rw [Schema.blankReport, after others judged', blank]

/-! ## Fields of two records -/

section Answered

variable (answers : ∀ callee, .predicate callee ∈ Schema.parts fields → judge.host.Answers callee (passes callee))
include answers

theorem judge_fields_alike (path : String) (entries : List (String × Value)) :
    (judge.judgeFields path entries fields).EndAlike (judge.judgeFields path entries fields) := by
  have together : (UnboundKeys.sameAnswers judge passes).records path path := trivial
  exact (UnboundKeys.sameAnswers judge passes).judge_fields fields together (Schema.any_keys fields) answers entries

/-- What a report has under a key is what judging the slot there comes to by itself, from
whatever state. -/
theorem verdict_settled (returned : (judge.judgeFields path entries fields state).result = .ok report)
    (found : fields.lookup key = some rule) : ∃ verdict, report.lookup key = some verdict ∧
      (judge.judgeField (extendPath defaultSeparator path key) (entries.lookup key) rule).Settles verdict := by
  induction fields generalizing state report with
  | nil => cases found
  | cons field rest ih =>
    obtain ⟨name, first⟩ := field
    obtain ⟨verdict, below, judged, judged', rfl⟩ := Judge.judge_fields_cons_returns.mp returned
    rw [List.lookup_cons] at found ⊢
    cases same : key == name with
    | true =>
      simp only [same, Option.some.injEq] at found ⊢
      rw [eq_of_beq same, ← found]
      have own : ∀ callee, .predicate callee ∈ first.parts → judge.host.Answers callee (passes callee) :=
        fun callee part => answers callee (List.mem_append_left _ part)
      have alike : (judge.judgeField (extendPath defaultSeparator path name) (entries.lookup name) first).EndAlike
          (judge.judgeField (extendPath defaultSeparator path name) (entries.lookup name) first) := by
        refine (UnboundKeys.sameAnswers judge passes).judge_field _ (fun _ _ _ _ => rfl) own ?_
        rintro inner record rfl
        exact judge_fields_alike own _ record
      exact ⟨verdict, rfl, fun state' => (alike state' state).trans judged⟩
    | false =>
      simp only [same] at found ⊢
      exact ih (fun callee part => answers callee (List.mem_append_right _ part)) judged' found

/-- Two records are judged alike at a key if they have the same there. -/
theorem verdict_shared {others : List (String × Value)} {report' : Report} {state' : σ}
    (returned : (judge.judgeFields path entries fields state).result = .ok report)
    (returned' : (judge.judgeFields path others fields state').result = .ok report')
    (named : key ∈ fields.map (·.1)) (same : entries.lookup key = others.lookup key) :
    report.lookup key = report'.lookup key := by
  obtain ⟨rule, found⟩ : ∃ rule, fields.lookup key = some rule :=
    Option.ne_none_iff_exists'.mp fun absent => Entries.lookup_eq_none.mp absent named
  obtain ⟨verdict, shown, settled⟩ := verdict_settled answers returned found
  obtain ⟨verdict', shown', settled'⟩ := verdict_settled answers returned' found
  rw [same] at settled
  rw [shown, shown', Except.ok.inj ((settled state).symm.trans (settled' state))]

/-- At a key that a record lacks it is judged as absent. -/
theorem verdict_blank (returned : (judge.judgeFields path entries fields state).result = .ok report)
    (found : fields.lookup key = some rule) (absent : entries.lookup key = none) :
    report.lookup key = some rule.blankVerdict := by
  obtain ⟨verdict, shown, settled⟩ := verdict_settled answers returned found
  rw [absent] at settled
  have blank : verdict = rule.blankVerdict := by
    apply judge_field_absent_returns _ (settled state)
    intro inner report state _ reported
    exact judge_fields_absent_returns inner (by simp) reported
  rw [shown, blank]

end Answered

/-! ## Tables -/

section Validated

variable (answers : ∀ callee, .predicate callee ∈ Schema.parts validator.schema → host.Answers callee (passes callee))
include answers

/-- A value is judged to the same report from whatever state. -/
theorem validate_settles {data : Value} (returned : (validator.validate host data state).result = .ok report) :
    (validator.validate host data).Settles report := by
  have alike : ((validator.judge host).judgeFields "" (data.entries?.getD []) validator.schema).EndAlike
      ((validator.judge host).judgeFields "" (data.entries?.getD []) validator.schema) :=
    judge_fields_alike answers "" (data.entries?.getD [])
  intro state'
  refine Judge.validate_returns.mpr ?_
  exact (alike state' state).trans (Judge.validate_returns.mp returned)

/-- A record that is compared only with what can be compared is judged. -/
theorem record_judged (sound : Schema.isSound validator.schema = true)
    (whole : ∀ left right, Schema.Compares passes validator.schema record left right →
      left.Comparable ∧ right.Comparable) (state : σ) :
    ∃ report, (validator.validate host (.mapping .plain record) state).result = .ok report := by
  have answering : ∀ callee, .predicate callee ∈ Schema.parts validator.schema →
      (validator.judge host).host.Answers callee (passes callee) := answers
  obtain ⟨report, returned, -⟩ := PathVerdicts.judge_fields_yields validator.schema sound answering whole "" state
  exact ⟨report, Judge.validate_returns.mpr returned⟩

theorem rows_judged {rows : List Row} (sound : Schema.isSound validator.schema = true)
    (whole : ∀ row ∈ rows, (∀ entry ∈ row.cells, entry.2.isSignalling = false) ∧
      ∀ record, row.Makes record → ∀ left right, Schema.Compares passes validator.schema record left right →
        left.Comparable ∧ right.Comparable) (state : σ) :
    ∃ reports, List.Forall₂ (Row.JudgedTo validator host) rows reports := by
  induction rows with
  | nil => exact ⟨[], .nil⟩
  | cons row rows ih =>
    obtain ⟨⟨quiet, compared⟩, others⟩ := List.forall_mem_cons.mp whole
    obtain ⟨record, makes⟩ := record_made quiet
    obtain ⟨report, returned⟩ := record_judged answers sound (compared record makes) state
    obtain ⟨reports, each⟩ := ih others
    exact ⟨report :: reports, .cons ⟨record, makes, validate_settles answers returned⟩ each⟩

/-- Rows are judged to what their records are judged to. -/
theorem judged_of_records {rows : List Row} {records : List (List (String × Value))} {reports : List Report}
    (made : List.Forall₂ Row.Makes rows records)
    (judged : List.Forall₂ (fun record report => ∃ before,
      (validator.validate host (.mapping .plain record) before).result = .ok report) records reports) :
    List.Forall₂ (Row.JudgedTo validator host) rows reports := by
  induction made generalizing reports with
  | nil =>
    cases judged
    exact .nil
  | @cons row record rows records makes made ih =>
    rcases judged with _ | ⟨⟨before, returned⟩, judged⟩
    exact .cons ⟨record, makes, validate_settles answers returned⟩ (ih judged)

/-- A table is judged only if the record of every row is. -/
theorem table_returns {table : Table} {outcome : List String × List (List Bool)}
    (returned : (table.validate validator host separator state).result = .ok outcome) :
    ∃ reports, List.Forall₂ (Row.JudgedTo validator host) table.rows reports := by
  simp only [Table.validate, Action.bind_returns] at returned
  obtain ⟨columns, -, rows, judged, -⟩ := returned
  obtain ⟨records, made⟩ := RowView.judge_rows_made judged
  rw [RowView.judge_rows_reports columns made, Action.map_returns] at judged
  obtain ⟨reports, judged, -⟩ := judged
  have each := List.forall₂_map_left_iff.mp (Judge.validate_all_returns judged)
  exact ⟨reports, judged_of_records answers made each⟩

end Validated

theorem judged_records {rows : List Row} {reports : List Report}
    (each : List.Forall₂ (Row.JudgedTo validator host) rows reports) :
    ∃ records, List.Forall₂ Row.Makes rows records ∧ List.Forall₂
      (fun record report => (validator.validate host (.mapping .plain record)).Settles report) records reports := by
  induction each with
  | nil => exact ⟨[], .nil, .nil⟩
  | cons first _ ih =>
    obtain ⟨record, makes, settles⟩ := first
    obtain ⟨records, made, settled⟩ := ih
    exact ⟨record :: records, .cons makes made, .cons settles settled⟩

/-- The rows of a table are the outcomes of its records, in order. -/
theorem table_settles {table : Table} {columns : List String} {reports : List Report}
    (listed : validator.columns separator = .ok columns)
    (each : List.Forall₂ (Row.JudgedTo validator host) table.rows reports) :
    (table.validate validator host separator).Settles (columns, reports.map (·.rowValues separator columns)) := by
  obtain ⟨records, made, settled⟩ := judged_records each
  have judged : ∀ state, ((validator.judge host).validateAll validator.schema (records.map (.mapping .plain))
      state).result = .ok reports :=
    RunHistories.validate_all_settles (List.forall₂_map_left_iff.mpr settled)
  intro state
  simp only [Table.validate, listed, Action.of_except_ok, pure_bind, RowView.judge_rows_reports columns made,
    Action.bind_returns, Action.map_returns]
  exact ⟨_, ⟨reports, judged state, rfl⟩, (), rfl, rfl⟩

/-- The record of a row is judged as the row itself is, wherever the cell is not missing. Let
the predicates of a validator answer by their argument alone.

A row that makes a record is judged so: at every key of the schema under which the row has
a missing cell, the report on the record is the verdict on an absent field, and at all other
keys it is what the report on the row is. Containers stand in the record as they stand
in the row, with all missing values in them.

A table comes to the same from every state. It is judged only if the record of each row
is, and then it has one row of outcomes for each of its rows, in order. It is
judged for certain if the rules are sound, no cell is a signalling decimal, and no comparison
hinges on what refuses to be compared, such as a missing value inside a container. -/
theorem present_cells_judged_alike (validator : Validator) (host : Host σ) (passes : Callable → Value → Bool)
    (answers : ∀ callee, .predicate callee ∈ Schema.parts validator.schema → host.Answers callee (passes callee)) :
    (∀ (row : Row) (record : List (String × Value)) (report : Report) (state : σ), row.Makes record →
      (validator.validate host (.mapping .plain record) state).result = .ok report →
      (∀ key rule, validator.schema.lookup key = some rule → row.MissingAt key →
        report.lookup key = some rule.blankVerdict) ∧
      (∀ raw state', (validator.validate host (.mapping .plain row.cells) state').result = .ok raw →
        ∀ key ∈ validator.schema.map (·.1), ¬row.MissingAt key → report.lookup key = raw.lookup key) ∧
      (∀ key cell, row.cells.lookup key = some cell → cell.isEntered = true → record.lookup key = some cell)) ∧
    (∀ (table : Table) (separator : String) (columns : List String), validator.columns separator = .ok columns →
      (∀ reports, List.Forall₂ (Row.JudgedTo validator host) table.rows reports →
        (table.validate validator host separator).Settles (columns, reports.map (·.rowValues separator columns))) ∧
      (∀ state outcome, (table.validate validator host separator state).result = .ok outcome →
        ∃ reports, List.Forall₂ (Row.JudgedTo validator host) table.rows reports)) ∧
    (∀ (table : Table) (separator : String), Schema.isSound validator.schema = true →
      (∀ row ∈ table.rows, (∀ entry ∈ row.cells, entry.2.isSignalling = false) ∧
        ∀ record, row.Makes record → ∀ left right, Schema.Compares passes validator.schema record left right →
          left.Comparable ∧ right.Comparable) →
      ∀ state, ∃ outcome, (table.validate validator host separator state).result = .ok outcome) := by
  have answering : ∀ callee, .predicate callee ∈ Schema.parts validator.schema →
      (validator.judge host).host.Answers callee (passes callee) := answers
  refine ⟨?_, ?_, ?_⟩
  · intro row record report state made returned
    have judged := Judge.validate_returns.mp returned
    refine ⟨?_, ?_, ?_⟩
    · intro key rule found missing
      exact verdict_blank answering judged found (missing_absent made missing)
    · intro raw state' returned' key named present
      exact verdict_shared answering judged (Judge.validate_returns.mp returned') named (present_kept made present)
    · intro key cell held entered
      have present : ¬row.MissingAt key := by
        rintro ⟨cell', held', missing⟩
        cases held.symm.trans held'
        cases (entered_present entered).symm.trans missing
      rw [present_kept made present, held]
  · intro table separator columns listed
    exact ⟨fun reports each => table_settles listed each, fun state outcome returned => table_returns answers returned⟩
  · intro table separator sound whole state
    obtain ⟨reports, each⟩ := rows_judged answers sound whole state
    exact ⟨_, table_settles (RuleSoundness.sound_columns sound separator) each state⟩

/-- A table of one row with four missing cells, and one more inside a list. The mark of a deleted
account passes and the address has a report of its own, as if both were absent, while the
row as it is fails in both. The tags fail either way, since what is missing in them stays. -/
theorem walkthrough_missing_cells :
    let host := Catalogue.host [.hasKind "number", .digits]
    let row : Row := ⟨[("name", .null), ("status", .text "active"), ("tags", .list [.text "vip", .null]),
      ("deleted", .float (.nan none)), ("address", .missing)], by simp⟩
    let record := [("status", .text "active"), ("tags", .list [.text "vip", .null])]
    let report : Report := [("name", .leaf false), ("status", .leaf true), ("balance", .leaf false),
      ("tags", .leaf false), ("deleted", .leaf true),
      ("address", .branch [("city", .leaf false), ("zip", .leaf false)])]
    let raw : Report := [("name", .leaf false), ("status", .leaf true), ("balance", .leaf false),
      ("tags", .leaf false), ("deleted", .leaf false), ("address", .leaf false)]
    let columns := ["name", "status", "balance", "tags", "deleted", "address.city", "address.zip"]
    row.Makes record ∧
    (Walkthrough.validator.validate host (.mapping .plain record) []).result = .ok report ∧
    (Walkthrough.validator.validate host (.mapping .plain row.cells) []).result = .ok raw ∧
    report.lookup "deleted" = some (Rule.primitive .undefined).blankVerdict ∧
    report.lookup "tags" = raw.lookup "tags" ∧
    record.lookup "tags" = some (.list [.text "vip", .null]) ∧
    ((Table.mk [row]).validate Walkthrough.validator host ".").Settles
      (columns, [[false, true, false, false, true, false, false]]) := by
  intro host row record report raw columns
  let passes : Callable → Value → Bool := fun callee v =>
    if callee = Walkthrough.isPositive then v.kind.name == "number" else Behaviour.isDigits v
  have answers : ∀ callee, .predicate callee ∈ Schema.parts Walkthrough.validator.schema →
      host.Answers callee (passes callee) := by
    intro callee mentioned v state
    rcases PathVerdicts.walkthrough_callees mentioned with rfl | rfl
    · exact ⟨_, rfl, rfl⟩
    · exact ⟨_, rfl, rfl⟩
  have made : row.Makes record := rfl
  have judged : (Walkthrough.validator.validate host (.mapping .plain record) []).result = .ok report := by rfl
  have judged_raw : (Walkthrough.validator.validate host (.mapping .plain row.cells) []).result = .ok raw := by rfl
  obtain ⟨rows, tables, -⟩ := present_cells_judged_alike Walkthrough.validator host passes answers
  obtain ⟨blank, shared, kept⟩ := rows row record report [] made judged
  have settled := (tables ⟨[row]⟩ "." columns rfl).1 [report]
    (.cons ⟨record, made, validate_settles answers judged⟩ .nil)
  have tagged : ¬row.MissingAt "tags" := by
    rintro ⟨cell, ⟨⟩, missing⟩
    cases missing
  exact ⟨made, judged, judged_raw, blank "deleted" (.primitive .undefined) rfl ⟨_, rfl, rfl⟩,
    shared raw [] judged_raw "tags" (by decide) tagged, kept "tags" _ rfl rfl, settled⟩

/-- A missing value inside a list, met by a literal that is a list too, leaves a table without any
outcomes. The list is no missing cell, so it stands in the record of its row. -/
theorem missing_item_leaves_no_rows :
    let validator := Validator.ofEntries validatorLogger [("a", .mapping .plain [(enumKey, .list [.list [.int 1]])])]
    let row : Row := ⟨[("a", .list [.missing])], by simp⟩
    row.Makes row.cells ∧
    ((Table.mk [row]).validate validator CommandLine.noCalls "." ()).result = .error .undetermined :=
  ⟨rfl, rfl⟩

end MissingCells
end RecordSchema
