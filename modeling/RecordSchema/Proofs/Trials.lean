import RecordSchema.Proofs.RuleObjects
import RecordSchema.Proofs.SchemaWalk

/-! Trials. Judging tries a value by a rule of its own at three places: under a key, among the
members of a composite, and for an element of an array. Each of the three keeps other kinds
of rules back, and what still comes through unsuited is met by a last resort. To see which
trials are made, a judge is put under a watch that comes before every trial and may do
anything an action can. The rules of a schema bound the trials that judging by it comes
to: a watch that ignores these is not heard in any run. So an objection that it would raise
to other trials is never raised. -/
namespace RecordSchema

variable {σ : Type}

/-- Where a value is tried by a rule of its own: under a key, among the members of a composite,
or for an element of an array. -/
inductive Place where
  | field
  | member
  | item
  deriving DecidableEq, Repr

/-- The rules that a value is meant to be tried by at a place: scalar rules everywhere, and
array rules unless they stand in an array rule. -/
def Place.admits : Place → Rule → Bool
  | .field, rule | .member, rule => rule.isSimple
  | .item, rule => rule.isScalar

/-- A watch is told of every trial before it is made: of the place, the rule, the path and the
value. It may do what any action can: leave events, change the state, end the run. -/
abbrev Watch (σ : Type) := Place → Rule → String → Value → Action σ Unit

/-- A watch does nothing about trials by a rule at a place. -/
def Watch.Ignores (watch : Watch σ) (place : Place) (rule : Rule) : Prop :=
  ∀ path v, watch place rule path v = pure ()

/-- The watch that ends a run at the first trial by a rule that its place does not admit. -/
def Watch.alarm : Watch σ := fun place rule _ _ => if place.admits rule then pure () else .fail .unsupported

/-- A judge under a watch. It does all that a judge does, with the watch before each trial. -/
structure WatchedJudge (σ : Type) extends Judge σ where
  watch : Watch σ

namespace WatchedJudge

variable (judge : WatchedJudge σ)

/-- Tries a present value by a rule at a place. An array rule makes a trial for each element. -/
def checkSimple (path : String) : Place → Rule → Value → Action σ Bool
  | place, .array item, v => do
    judge.watch place (.array item) path v
    match Judge.elements? v with
    | none => pure false
    | some elements =>
      if item.isScalar then Judge.allPass (fun element => checkSimple path .item item element) elements
      else if elements.isEmpty then pure true
      else do
        judge.warn (.unsupportedItem path item.typeName)
        pure false
  | place, rule, v => do
    judge.watch place rule path v
    judge.toJudge.checkSimple path rule v
termination_by structural _ rule => rule

/-- Judges a present value by the members of a composite, up to the first that fails. -/
def checkMembers (path : String) : List Rule → Value → Action σ Bool
  | [], _ => pure true
  | member :: members, v =>
    if member.isSimple then do
      if ← judge.checkSimple path .member member v then checkMembers path members v else pure false
    else do
      judge.warn (.unsupportedMember path member.typeName)
      pure false

/-- Judges a present value by a rule that is not nested. -/
def checkPresent (path : String) (rule : Rule) (v : Value) : Action σ Bool :=
  match rule with
  | .composite members => judge.checkMembers path members v
  | .unrecognized raw => do
    judge.warn (.unrecognizedRule path raw)
    pure false
  | rule => judge.checkSimple path .field rule v

/-- Judges what is under a key by a rule that is not nested. -/
def judgeLeaf (path : String) (slot : Option Value) : Rule → Action σ Bool
  | .primitive .undetermined => .fail .undetermined
  | .primitive .undefined => pure (((slot.map Value.kind).getD .undefined) == .undefined)
  | .primitive .null => pure (slot.map Value.kind == some .null)
  | rule => match slot with
    | none => pure false
    | some v => judge.checkPresent path rule v

mutual
/-- Judges what is under a key by the rule at a path. -/
def judgeField (path : String) (slot : Option Value) : Rule → Action σ Verdict
  | .nested fields => match Judge.record? slot with
    | some entries => Verdict.branch <$> judgeFields path entries fields
    | none => judge.refuseNested path slot
  | .broken .nested fault => match Judge.record? slot with
    | some _ => .fail fault
    | none => judge.refuseNested path slot
  | rule => Verdict.leaf <$> judge.judgeLeaf path slot rule
termination_by structural rule => rule

/-- Judges the entries of a record by the fields below a path. -/
def judgeFields (path : String) (entries : List (String × Value)) : List (String × Rule) → Action σ Report
  | [] => pure []
  | (key, rule) :: rest => do
    let verdict ← judgeField (extendPath defaultSeparator path key) (entries.lookup key) rule
    ((key, verdict) :: ·) <$> judgeFields path entries rest
termination_by structural fields => fields
end

/-- Judges a value by a schema and logs the report. -/
def validate (schema : Schema) (data : Value) : Action σ Report := do
  let report ← judge.judgeFields "" (data.entries?.getD []) schema
  .log judge.logger (.judged report)
  pure report

end WatchedJudge

/-- The trials that a trial by a rule makes in its turn. -/
def Rule.itemTrials : Rule → List (Place × Rule)
  | .array item => if item.isScalar then [(.item, item)] else []
  | _ => []

mutual
/-- The trials that judging by a rule under a key may come to. -/
def Rule.trials : Rule → List (Place × Rule)
  | .nested fields => Schema.trials fields
  | .composite members =>
    (members.filter (·.isSimple)).flatMap fun member => (.member, member) :: member.itemTrials
  | .unrecognized _ | .broken .nested _ => []
  | rule => (.field, rule) :: rule.itemTrials
termination_by structural rule => rule

/-- The trials that judging by the fields of a schema may come to. -/
def Schema.trials : List (String × Rule) → List (Place × Rule)
  | [] => []
  | (_, rule) :: rest => rule.trials ++ Schema.trials rest
termination_by structural fields => fields
end

namespace Trials

variable {judge : WatchedJudge σ} {place : Place} {rule : Rule} {path : String} {v object : Value}
  {entries objects : List (String × Value)}

/-! ## Trials of rule objects -/

theorem scalar_trials (scalar : rule.isScalar = true) : rule.trials = [(.field, rule)] := by
  cases rule with
  | primitive | predicate | enumeration => rfl
  | broken kind fault =>
    cases kind with
    | nested => cases scalar
    | _ => rfl
  | array | composite | nested | unrecognized | foreign => cases scalar

/-- The elements of an array are tried by scalar rules only, whatever its item rule is. -/
theorem item_trials_admitted (rule : Rule) : ∀ trial ∈ rule.itemTrials, trial.1.admits trial.2 = true := by
  cases rule with
  | array item =>
    rw [Rule.itemTrials]
    split
    next scalar => exact List.forall_mem_singleton.mpr scalar
    next => exact nofun
  | _ => exact nofun

/-- The members of a composite are tried only if they are simple. -/
theorem member_trials_admitted (members : List Rule) :
    ∀ trial ∈ (Rule.composite members).trials, trial.1.admits trial.2 = true := by
  intro trial among
  rw [Rule.trials, List.mem_flatMap] at among
  obtain ⟨member, chosen, among⟩ := among
  rcases List.mem_cons.mp among with rfl | among
  · exact (List.mem_filter.mp chosen).2
  · exact item_trials_admitted member trial among

theorem fields_trials_admitted
    (each : ∀ field ∈ objects, ∀ trial ∈ (Rule.ofObject field.2).trials, trial.1.admits trial.2 = true) :
    ∀ trial ∈ Schema.trials (Rule.ofFields objects), trial.1.admits trial.2 = true := by
  induction objects with
  | nil => exact nofun
  | cons field rest ih =>
    obtain ⟨key, object⟩ := field
    obtain ⟨first, others⟩ := List.forall_mem_cons.mp each
    exact List.forall_mem_append.mpr ⟨first, ih others⟩

theorem tag_part_scalar (part : Value) : (Rule.ofTagPart part).isScalar = true := by
  unfold Rule.ofTagPart
  split <;> rfl

theorem literals_part_scalar (part : Value) : (Rule.ofLiteralsPart part).isScalar = true := by
  unfold Rule.ofLiteralsPart
  split <;> rfl

theorem callee_part_scalar (part : Value) : (Rule.ofPlainPart .predicate part).isScalar = true := by
  cases part <;> rfl

/-- A composite rule object whose members can be gone through is a composite rule. -/
theorem composite_object {part : Value} {members : List Value} (walked : part.items? = some members) :
    ∃ rules, Rule.ofObject (.rule .composite part) = .composite rules := by
  cases part with
  | list | tuple | named | set => exact ⟨_, rfl⟩
  | _ => exact ⟨members.map .foreign, by simp [Rule.ofObject, Rule.ofPlainPart, Rule.ofMembersPart, walked]⟩

/-- An object filled with rule objects makes no trials but those that their places admit.
Unsuited items and members are kept back whatever they are; fields are not, and for them it
counts that a rule object stands under every key. -/
theorem formed_trials_admitted (formed : object.IsRule) :
    ∀ trial ∈ (Rule.ofObject object).trials, trial.1.admits trial.2 = true := by
  induction formed with
  | @plain kind part plain =>
    have scalar_admitted {rule : Rule} (scalar : rule.isScalar = true) :
        ∀ trial ∈ rule.trials, trial.1.admits trial.2 = true := by
      rw [scalar_trials scalar, List.forall_mem_singleton, Place.admits, Rule.isSimple, scalar, Bool.true_or]
    cases kind with
    | primitive => exact scalar_admitted (tag_part_scalar part)
    | predicate => exact scalar_admitted (callee_part_scalar part)
    | enumeration => exact scalar_admitted (literals_part_scalar part)
    | unrecognized => exact nofun
    | array | composite | nested => cases plain
  | @array item formed ih =>
    exact List.forall_mem_cons.mpr ⟨rfl, item_trials_admitted (.array (Rule.ofObject item))⟩
  | @composite part members walked each ih =>
    obtain ⟨rules, composite⟩ := composite_object walked
    rw [composite]
    exact member_trials_admitted rules
  | nested kind each ih =>
    rw [Rule.ofObject, Rule.trials]
    exact fields_trials_admitted ih

/-- So a validator whose objects are filled with rule objects makes no others. -/
theorem validator_trials_admitted {validator : Validator} (formed : ∀ field ∈ validator.objects, field.2.IsRule) :
    ∀ trial ∈ Schema.trials validator.schema, trial.1.admits trial.2 = true :=
  fields_trials_admitted fun field among => formed_trials_admitted (formed field among)

/-! ## Unheard watches -/

/-- A trial by a rule that is no array rule makes no other trials. -/
theorem single_trial (single : ∀ item, rule ≠ .array item) : judge.checkSimple path place rule v =
    judge.watch place rule path v >>= fun _ => judge.toJudge.checkSimple path rule v := by
  cases rule with
  | array item => exact absurd rfl (single item)
  | _ => rfl

theorem scalar_unheard (scalar : rule.isScalar = true) (ignored : judge.watch.Ignores place rule) :
    judge.checkSimple path place rule v = judge.toJudge.checkSimple path rule v := by
  have single (item : Rule) : rule ≠ .array item := by
    rintro rfl
    cases scalar
  rw [single_trial single, ignored path v, pure_bind]

theorem simple_unheard (ignored : judge.watch.Ignores place rule)
    (items : ∀ trial ∈ rule.itemTrials, judge.watch.Ignores trial.1 trial.2) :
    judge.checkSimple path place rule v = judge.toJudge.checkSimple path rule v := by
  cases rule with
  | array item =>
    rw [WatchedJudge.checkSimple, Judge.checkSimple, ignored path v, pure_bind]
    cases Judge.elements? v with
    | none => rfl
    | some elements =>
      simp only
      split
      next scalar =>
        rw [Rule.itemTrials, if_pos scalar, List.forall_mem_singleton] at items
        simp only [scalar_unheard scalar items]
      next => rfl
  | _ => rw [single_trial (by simp), ignored path v, pure_bind]

theorem members_unheard (members : List Rule)
    (ignored : ∀ trial ∈ (Rule.composite members).trials, judge.watch.Ignores trial.1 trial.2) :
    judge.checkMembers path members v = judge.toJudge.checkMembers path members v := by
  induction members with
  | nil => rfl
  | cons member rest ih =>
    rw [WatchedJudge.checkMembers, Judge.checkMembers]
    split
    next simple =>
      rw [Rule.trials, List.filter_cons_of_pos simple, List.flatMap_cons, List.forall_mem_append,
        List.forall_mem_cons] at ignored
      rw [simple_unheard ignored.1.1 ignored.1.2, ih (by simpa only [Rule.trials] using ignored.2)]
    next complex => rfl

theorem present_unheard (leaf : rule.kind? ≠ some .nested)
    (ignored : ∀ trial ∈ rule.trials, judge.watch.Ignores trial.1 trial.2) :
    judge.checkPresent path rule v = judge.toJudge.checkPresent path rule v := by
  have tried (trials : rule.trials = (.field, rule) :: rule.itemTrials) :
      judge.checkSimple path .field rule v = judge.toJudge.checkSimple path rule v := by
    rw [trials, List.forall_mem_cons] at ignored
    exact simple_unheard ignored.1 ignored.2
  cases rule with
  | composite members => exact members_unheard members ignored
  | unrecognized raw => rfl
  | nested fields => exact absurd rfl leaf
  | broken kind fault =>
    cases kind with
    | nested => exact absurd rfl leaf
    | _ => exact tried rfl
  | _ => exact tried rfl

theorem leaf_unheard (slot : Option Value) (leaf : rule.kind? ≠ some .nested)
    (ignored : ∀ trial ∈ rule.trials, judge.watch.Ignores trial.1 trial.2) :
    judge.judgeLeaf path slot rule = judge.toJudge.judgeLeaf path slot rule := by
  cases slot with
  | none =>
    cases rule with
    | primitive tag => cases tag <;> rfl
    | _ => rfl
  | some v =>
    have present : judge.checkPresent path rule v = judge.toJudge.checkPresent path rule v :=
      present_unheard leaf ignored
    cases rule with
    | primitive tag =>
      cases tag with
      | undetermined | undefined | null => rfl
      | _ => exact present
    | _ => exact present

theorem watched_leaf (leaf : rule.kind? ≠ some .nested) (slot : Option Value) :
    judge.judgeField path slot rule = Verdict.leaf <$> judge.judgeLeaf path slot rule := by
  cases rule with
  | nested fields => exact absurd rfl leaf
  | broken kind fault =>
    cases kind with
    | nested => exact absurd rfl leaf
    | _ => rfl
  | _ => rfl

/-- A watch that ignores the trials of a schema is not heard, whatever it does at others. -/
theorem fields_unheard (fields : Schema)
    (ignored : ∀ trial ∈ Schema.trials fields, judge.watch.Ignores trial.1 trial.2) :
    judge.judgeFields path entries fields = judge.toJudge.judgeFields path entries fields := by
  induction fields using Schema.induction generalizing path entries with
  | nil => rfl
  | leaf key rule rest leaf ih =>
    obtain ⟨own, others⟩ := List.forall_mem_append.mp ignored
    rw [WatchedJudge.judgeFields, Judge.judgeFields, watched_leaf leaf, leaf_unheard _ leaf own, ih others,
      Judge.judge_field_leaf leaf]
  | broken key fault rest ih =>
    -- A broken rule makes no trial, so both judges go the same way at it.
    obtain ⟨-, others⟩ := List.forall_mem_append.mp ignored
    rw [WatchedJudge.judgeFields, Judge.judgeFields, ih others]
    rfl
  | nested key inner rest inside below =>
    obtain ⟨own, others⟩ := List.forall_mem_append.mp ignored
    rw [WatchedJudge.judgeFields, Judge.judgeFields, below others, WatchedJudge.judgeField, Judge.judgeField]
    cases Judge.record? (entries.lookup key) with
    | none => rfl
    | some record => simp only [inside own]

theorem validate_unheard {schema : Schema} {data : Value}
    (ignored : ∀ trial ∈ Schema.trials schema, judge.watch.Ignores trial.1 trial.2) :
    judge.validate schema data = judge.toJudge.validate schema data := by
  rw [WatchedJudge.validate, Judge.validate, fields_unheard schema ignored]

end Trials
end RecordSchema
