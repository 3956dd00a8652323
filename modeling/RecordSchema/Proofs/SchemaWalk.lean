import Mathlib.Data.List.Forall2
import RecordSchema.Proofs.Actions
import RecordSchema.Validation

/-! The walk through a schema. A schema is entered only through its nested
rules, so a property of schemas is proved field by field: a rule of another
kind is a leaf of the walk whatever it holds, and below a nested rule stands a
schema again. -/
namespace RecordSchema

/-- Induction along the walk. Rules of items and members are never walked
into, which is why the cases are not the constructors of rules. -/
@[elab_as_elim]
theorem Schema.induction {motive : Schema → Prop} (nil : motive [])
    (leaf : ∀ key rule rest, rule.kind? ≠ some .nested → motive rest → motive ((key, rule) :: rest))
    (broken : ∀ key fault rest, motive rest → motive ((key, .broken .nested fault) :: rest))
    (nested : ∀ key inner rest, motive inner → motive rest → motive ((key, .nested inner) :: rest)) :
    ∀ fields, motive fields
  | [] => nil
  | (key, rule) :: rest => by
    have below := induction nil leaf broken nested rest
    cases rule with
    | nested inner => exact nested key inner rest (induction nil leaf broken nested inner) below
    | broken kind fault =>
      cases kind with
      | nested => exact broken key fault rest below
      | _ => exact leaf key _ rest (by simp [Rule.kind?]) below
    | _ => exact leaf key _ rest (by simp [Rule.kind?]) below

/-- Induction along the walk through a report, field by field: a leaf ends the walk, and
below a branch stands a report again. -/
@[elab_as_elim]
theorem Report.induction {motive : Report → Prop} (nil : motive [])
    (leaf : ∀ key passed rest, motive rest → motive ((key, .leaf passed) :: rest))
    (branch : ∀ key inner rest, motive inner → motive rest → motive ((key, .branch inner) :: rest)) :
    ∀ report, motive report
  | [] => nil
  | (key, .leaf passed) :: rest => leaf key passed rest (induction nil leaf branch rest)
  | (key, .branch inner) :: rest =>
    branch key inner rest (induction nil leaf branch inner) (induction nil leaf branch rest)

theorem Rule.leaf_plain {rule : Rule} (leaf : rule.kind? ≠ some .nested) : ∀ inner, rule ≠ .nested inner := by
  rintro inner rfl
  simp [Rule.kind?] at leaf

namespace Judge

variable {σ : Type} {judge : Judge σ} {path key : String} {slot : Option Value} {rule : Rule}
  {entries : List (String × Value)} {fields rest : Schema} {state : σ} {report : Report}

/-- A call leaves its own event first and then those of the callee. -/
theorem holds_run (judge : Judge σ) (callee : Callable) (v : Value) (state : σ) : ∃ result after,
    judge.holds callee v state = ⟨result, after, .called callee v :: (judge.host callee v state).events⟩ := by
  let asked (answer : Value) : Action σ Bool := .ofExcept answer.truth
  have called : judge.holds callee v = .emit (.called callee v) >>= fun _ => judge.host callee v >>= asked := rfl
  have emitted : (Action.emit (.called callee v) : Action σ Unit) state = ⟨.ok (), state, [.called callee v]⟩ := rfl
  rw [called]
  rcases answered : judge.host callee v state with ⟨fault | answer, after, events⟩
  · exact ⟨.error fault, after, Action.bind_runs emitted (Action.bind_of_error answered)⟩
  · have told : asked answer after = ⟨answer.truth, after, []⟩ := Action.of_except_run answer.truth
    refine ⟨answer.truth, after, ?_⟩
    rw [Action.bind_runs emitted (Action.bind_runs answered told), List.append_nil]
    rfl

/-- A rule that is not nested is judged to a leaf. -/
theorem judge_field_leaf (leaf : rule.kind? ≠ some .nested) :
    judge.judgeField path slot rule = Verdict.leaf <$> judge.judgeLeaf path slot rule := by
  cases rule with
  | nested fields => simp [Rule.kind?] at leaf
  | broken kind fault =>
    cases kind with
    | nested => simp [Rule.kind?] at leaf
    | _ => rfl
  | _ => rfl

/-- A nested rule with a record to judge. -/
theorem judge_field_record (record : record? slot = some entries) :
    judge.judgeField path slot (.nested fields) = Verdict.branch <$> judge.judgeFields path entries fields := by
  simp [judgeField, record]

/-- A nested rule with something in its way. -/
theorem judge_field_refused (refused : record? slot = none) :
    judge.judgeField path slot (.nested fields) = judge.refuseNested path slot := by
  simp [judgeField, refused]

theorem refuse_nested_run :
    judge.refuseNested path slot state = ⟨.ok (.leaf false), state,
      [.logged judge.logger (.notARecord path ((slot.map Value.typeName).getD ""))]⟩ := rfl

/-- A nested rule without fields can only return by refusing what it meets. -/
theorem judge_field_broken_returns {fault : Fault} {verdict : Verdict}
    (returned : (judge.judgeField path slot (.broken .nested fault) state).result = .ok verdict) :
    verdict = .leaf false := by
  cases record : record? slot with
  | none =>
    simp only [judgeField, record, refuse_nested_run] at returned
    cases returned
    rfl
  | some entries => simp [judgeField, record] at returned

theorem judge_fields_nil_returns :
    (judge.judgeFields path entries [] state).result = .ok report ↔ report = [] := by
  rw [judgeFields, Action.pure_run]
  simp [eq_comm]

/-- Fields are judged one after another, each from the state that the one
before it left. -/
theorem judge_fields_cons_returns :
    (judge.judgeFields path entries ((key, rule) :: rest) state).result = .ok report ↔
      ∃ verdict below,
        (judge.judgeField (extendPath defaultSeparator path key) (entries.lookup key) rule state).result =
          .ok verdict ∧
        (judge.judgeFields path entries rest (judge.judgeField (extendPath defaultSeparator path key)
          (entries.lookup key) rule state).state).result = .ok below ∧
        report = (key, verdict) :: below := by
  simp only [judgeFields, Action.bind_returns, Action.map_returns]
  constructor
  · rintro ⟨verdict, first, below, second, rfl⟩
    exact ⟨verdict, below, first, second, rfl⟩
  · rintro ⟨verdict, below, first, second, rfl⟩
    exact ⟨verdict, first, below, second, rfl⟩

theorem judge_fields_cons_ends {after : σ} {events : List Event}
    (ran : judge.judgeFields path entries ((key, rule) :: rest) state = ⟨.ok report, after, events⟩) :
    ∃ verdict middle before below more,
      judge.judgeField (extendPath defaultSeparator path key) (entries.lookup key) rule state =
        ⟨.ok verdict, middle, before⟩ ∧
      judge.judgeFields path entries rest middle = ⟨.ok below, after, more⟩ ∧
      report = (key, verdict) :: below ∧ events = before ++ more := by
  rw [judgeFields] at ran
  obtain ⟨verdict, middle, before, more, judged, others, rfl⟩ := Action.bind_ends ran
  obtain ⟨below, returned, rfl⟩ := Action.map_ends others
  exact ⟨verdict, middle, before, below, more, judged, returned, rfl, rfl⟩

/-- Fields fail in the first one or, after that one has returned, in the others. -/
theorem judge_fields_cons_fails {after : σ} {fault : Fault} {events : List Event}
    (ran : judge.judgeFields path entries ((key, rule) :: rest) state = ⟨.error fault, after, events⟩) :
    judge.judgeField (extendPath defaultSeparator path key) (entries.lookup key) rule state =
        ⟨.error fault, after, events⟩ ∨
      ∃ verdict middle before more,
        judge.judgeField (extendPath defaultSeparator path key) (entries.lookup key) rule state =
          ⟨.ok verdict, middle, before⟩ ∧
        judge.judgeFields path entries rest middle = ⟨.error fault, after, more⟩ ∧ events = before ++ more := by
  rw [judgeFields] at ran
  rcases Action.bind_fails ran with failed | ⟨verdict, middle, before, more, judged, below, rfl⟩
  · exact .inl failed
  · exact .inr ⟨verdict, middle, before, more, judged, Action.map_fails below, rfl⟩

/-- A validation returns what judging the fields returns; the record of the
report is logged afterwards. -/
theorem validate_returns {schema : Schema} {data : Value} :
    (judge.validate schema data state).result = .ok report ↔
      (judge.judgeFields "" (data.entries?.getD []) schema state).result = .ok report := by
  simp only [validate, Action.bind_returns, Action.pure_run]
  constructor
  · rintro ⟨found, judged, _, _, same⟩
    cases same
    exact judged
  · intro judged
    exact ⟨report, judged, (), rfl, rfl⟩

/-- A run over several values returns one report for each, found from some
state that the values before it left. -/
theorem validate_all_returns {schema : Schema} {records : List Value} {reports : List Report}
    (returned : (judge.validateAll schema records state).result = .ok reports) :
    List.Forall₂ (fun data report => ∃ before, (judge.validate schema data before).result = .ok report)
      records reports := by
  induction records generalizing state reports with
  | nil =>
    cases returned
    exact .nil
  | cons data records ih =>
    simp only [validateAll, Action.bind_returns, Action.map_returns] at returned
    obtain ⟨report, first, below, rest, rfl⟩ := returned
    exact .cons ⟨state, first⟩ (ih rest)

end Judge

variable {σ : Type} {validator : Validator} {host : Host σ} {data : Value} {before after : σ} {fault : Fault}
  {events : List Event} {found : Outcome σ Report}

/-- What a validation finds, apart from the record of the report: a validation
that returns logs its report at the end, and one that fails logs none. -/
def Validator.Finds (validator : Validator) (host : Host σ) (data : Value) (before : σ)
    (found : Outcome σ Report) : Prop :=
  validator.validate host data before = match found.result with
    | .ok report => ⟨.ok report, found.state, found.events ++ [.logged validator.logger (.judged report)]⟩
    | .error fault => ⟨.error fault, found.state, found.events⟩

/-- A validation finds what judging its fields does. -/
theorem Validator.finds_iff : validator.Finds host data before found ↔
    (validator.judge host).judgeFields "" (data.entries?.getD []) validator.schema before = found := by
  let record (report : Report) : Action σ Report := do
    .log validator.logger (.judged report)
    pure report
  have recorded (report : Report) (state : σ) :
      record report state = ⟨.ok report, state, [.logged validator.logger (.judged report)]⟩ := rfl
  have validated : validator.validate host data before =
      ((validator.judge host).judgeFields "" (data.entries?.getD []) validator.schema >>= record) before := rfl
  rw [Validator.Finds, validated]
  rcases judged : (validator.judge host).judgeFields "" (data.entries?.getD []) validator.schema before with
    ⟨_ | report, after, events⟩
  · rw [Action.bind_of_error judged]
    rcases found with ⟨_ | _, _, _⟩ <;> simp
  · rw [Action.bind_runs judged (recorded report after)]
    rcases found with ⟨_ | other, state, others⟩
    · simp
    · simp only [Outcome.mk.injEq, Except.ok.injEq]
      constructor
      · rintro ⟨rfl, rfl, told⟩
        exact ⟨rfl, rfl, List.append_cancel_right told⟩
      · rintro ⟨rfl, rfl, rfl⟩
        exact ⟨rfl, rfl, rfl⟩

end RecordSchema
