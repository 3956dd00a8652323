import RecordSchema.Proofs.Acceptance
import RecordSchema.Proofs.NodePaths

/-! Alike runs. Whatever a judge does is put together from few steps: it makes
calls of the predicates that the schema mentions, tells the logger of trouble at
a path, and fails. So what relates the steps of two judges, and is kept when
actions are put one after another, relates all that the two judge. The judges may
differ in the meaning of calls, in the logger and in the paths they start from. What
the runs of a single judge uphold, whatever it judges, is the case in which the two
are one. -/
namespace RecordSchema

/-- A warning with another path in the place of its own. -/
def Notice.moved (path : String) : Notice → Notice
  | .notARecord _ found => .notARecord path found
  | .unrecognizedRule _ raw => .unrecognizedRule path raw
  | .unsupportedItem _ kind => .unsupportedItem path kind
  | .unsupportedMember _ kind => .unsupportedMember path kind
  | .unsupportedRule _ kind => .unsupportedRule path kind
  | .judged report => .judged report
  | .rowsJudged rows columns => .rowsJudged rows columns

/-- The path of a warning does not decide how severe it is. -/
@[simp] theorem Notice.moved_level (path : String) (notice : Notice) :
    (notice.moved path).level = notice.level := by
  cases notice <;> rfl

/-- Where any key will do, all keys do. -/
theorem Schema.any_keys (fields : Schema) : Schema.allKeys (fun _ => true) fields = true := by
  induction fields using Schema.induction with
  | nil => rfl
  | leaf key rule rest leaf ih =>
    cases rule with
    | nested inner => exact absurd rfl (Rule.leaf_plain leaf inner)
    | _ => simpa [Schema.allKeys, Rule.allKeys] using ih
  | broken key fault rest ih => simpa [Schema.allKeys, Rule.allKeys] using ih
  | nested key inner rest inside below => simp [Schema.allKeys, Rule.allKeys, inside, below]

variable {σ τ : Type}

/-- Two judges tell their loggers of the same trouble at two paths in related ways. -/
def Judge.WarnAlike (one : Judge σ) (other : Judge τ) (alike : Action σ Unit → Action τ Unit → Prop)
    (path place : String) : Prop :=
  ∀ notice : Notice, notice.level = .warning → alike (one.warn (notice.moved path)) (other.warn (notice.moved place))

/-- A likeness of two judges: a relation between actions that holds of their
steps and that is kept in sequence. Calls need to be alike only for some callees. -/
structure Judge.Likeness (one : Judge σ) (other : Judge τ) (callees : Callable → Prop) where
  alike : {α : Type} → Action σ α → Action τ α → Prop
  returning : ∀ {α : Type} (a : α), alike (pure a) (pure a)
  failing : ∀ {α : Type} (fault : Fault), alike (.fail fault : Action σ α) (.fail fault)
  sequence : ∀ {α β : Type} {first : Action σ α} {first' : Action τ α} {next : α → Action σ β}
    {next' : α → Action τ β}, alike first first' → (∀ a, alike (next a) (next' a)) →
      alike (first >>= next) (first' >>= next')
  calls : ∀ callee v, callees callee → alike (one.holds callee v) (other.holds callee v)
  /-- The paths of two records that are judged alike. -/
  records : String → String → Prop
  /-- The keys that lead from such records to others. -/
  keys : String → Bool
  warnings : ∀ path place key, records path place → keys key = true →
    one.WarnAlike other alike (extendPath defaultSeparator path key) (extendPath defaultSeparator place key)
  inside : ∀ path place key, records path place → keys key = true →
    records (extendPath defaultSeparator path key) (extendPath defaultSeparator place key)

namespace Judge.Likeness

variable {one : Judge σ} {other : Judge τ} {callees : Callable → Prop} (like : Likeness one other callees)
  {path place : String} {rule : Rule} {v : Value}
include like

theorem mapped {α β : Type} (f : α → β) {first : Action σ α} {first' : Action τ α}
    (alike : like.alike first first') : like.alike (f <$> first) (f <$> first') := by
  rw [map_eq_pure_bind, map_eq_pure_bind]
  exact like.sequence alike fun a => like.returning (f a)

/-- One check after another. -/
theorem both {first next : Action σ Bool} {first' next' : Action τ Bool} (alike : like.alike first first')
    (then_alike : like.alike next next') :
    like.alike (do if ← first then next else pure false) (do if ← first' then next' else pure false) := by
  refine like.sequence alike fun passed => ?_
  cases passed with
  | true => exact then_alike
  | false => exact like.returning false

/-- A failure that the logger is told of. -/
theorem warned (notice : Notice) (told : one.WarnAlike other like.alike path place)
    (warning : notice.level = .warning) :
    like.alike (do one.warn (notice.moved path); pure false) (do other.warn (notice.moved place); pure false) :=
  like.sequence (told notice warning) fun _ => like.returning false

theorem all_pass {check : Value → Action σ Bool} {check' : Value → Action τ Bool}
    (each : ∀ v, like.alike (check v) (check' v)) (elements : List Value) :
    like.alike (Judge.allPass check elements) (Judge.allPass check' elements) := by
  induction elements with
  | nil => exact like.returning true
  | cons element rest ih => exact like.both (each element) ih

theorem check_scalar (scalar : rule.isScalar = true)
    (called : ∀ callee, .predicate callee ∈ rule.parts → callees callee) (v : Value) :
    like.alike (one.checkSimple path rule v) (other.checkSimple place rule v) := by
  cases rule with
  | primitive tag => exact like.returning _
  | predicate callee => exact like.calls callee v (called callee (List.mem_singleton_self _))
  | enumeration literals =>
    rw [Judge.checkSimple, Judge.checkSimple]
    cases v.isAmong literals with
    | error fault => exact like.failing fault
    | ok listed => exact like.returning listed
  | broken kind fault => exact like.failing fault
  | _ => cases scalar

theorem check_simple (told : one.WarnAlike other like.alike path place)
    (called : ∀ callee, .predicate callee ∈ rule.parts → callees callee) :
    like.alike (one.checkSimple path rule v) (other.checkSimple place rule v) := by
  cases rule with
  | array item =>
    rw [Judge.checkSimple, Judge.checkSimple]
    cases Judge.elements? v with
    | none => exact like.returning false
    | some elements =>
      simp only
      split
      next scalar => exact like.all_pass (like.check_scalar scalar called) elements
      next complex =>
        split
        · exact like.returning true
        · exact like.warned (.unsupportedItem path item.typeName) told rfl
  | composite members => exact like.warned (.unsupportedRule path _) told rfl
  | nested fields => exact like.warned (.unsupportedRule path _) told rfl
  | unrecognized raw => exact like.warned (.unsupportedRule path _) told rfl
  | foreign part => exact like.warned (.unsupportedRule path _) told rfl
  | broken kind fault => exact like.failing fault
  | _ => exact like.check_scalar rfl called v

theorem check_members (members : List Rule) (told : one.WarnAlike other like.alike path place)
    (called : ∀ callee, .predicate callee ∈ Rule.memberParts members → callees callee) :
    like.alike (one.checkMembers path members v) (other.checkMembers place members v) := by
  induction members with
  | nil => exact like.returning true
  | cons member rest ih =>
    rw [Judge.checkMembers, Judge.checkMembers]
    split
    · refine like.both (like.check_simple told fun callee part => called callee ?_)
        (ih fun callee part => called callee ?_)
      · exact List.mem_append_left _ part
      · exact List.mem_append_right _ part
    · exact like.warned (.unsupportedMember path _) told rfl

theorem check_present (told : one.WarnAlike other like.alike path place)
    (called : ∀ callee, .predicate callee ∈ rule.parts → callees callee) :
    like.alike (one.checkPresent path rule v) (other.checkPresent place rule v) := by
  cases rule with
  | composite members => exact like.check_members members told called
  | unrecognized raw => exact like.warned (.unrecognizedRule path raw) told rfl
  | _ => exact like.check_simple told called

theorem judge_leaf (slot : Option Value) (told : one.WarnAlike other like.alike path place)
    (called : ∀ callee, .predicate callee ∈ rule.parts → callees callee) :
    like.alike (one.judgeLeaf path slot rule) (other.judgeLeaf place slot rule) := by
  unfold Judge.judgeLeaf
  split
  · exact like.failing _
  · exact like.returning _
  · exact like.returning _
  · cases slot with
    | none => exact like.returning false
    | some v => exact like.check_present told called

theorem refuse_nested (slot : Option Value) (told : one.WarnAlike other like.alike path place) :
    like.alike (one.refuseNested path slot) (other.refuseNested place slot) :=
  like.sequence (told (.notARecord path _) rfl) fun _ => like.returning _

/-- What is under a key is judged alike, as long as the record that a nested rule
opens there is. -/
theorem judge_field (slot : Option Value) (told : one.WarnAlike other like.alike path place)
    (called : ∀ callee, .predicate callee ∈ rule.parts → callees callee)
    (inside : ∀ inner record, rule = .nested inner →
      like.alike (one.judgeFields path record inner) (other.judgeFields place record inner)) :
    like.alike (one.judgeField path slot rule) (other.judgeField place slot rule) := by
  by_cases leaf : rule.kind? = some .nested
  · cases rule with
    | nested inner =>
      cases record : Judge.record? slot with
      | none =>
        rw [Judge.judge_field_refused record, Judge.judge_field_refused record]
        exact like.refuse_nested _ told
      | some found =>
        rw [Judge.judge_field_record record, Judge.judge_field_record record]
        exact like.mapped _ (inside inner found rfl)
    | broken kind fault =>
      cases leaf
      rw [Judge.judgeField, Judge.judgeField]
      -- The way into a broken rule fails before anything below it is judged.
      split
      · exact like.failing fault
      · exact like.refuse_nested _ told
    | _ => cases leaf
  · rw [Judge.judge_field_leaf leaf, Judge.judge_field_leaf leaf]
    exact like.mapped _ (like.judge_leaf _ told called)

/-- One field and the others after it. -/
private theorem judge_field_then {key : String} {rest : Schema} {entries : List (String × Value)}
    (first : like.alike (one.judgeField (extendPath defaultSeparator path key) (entries.lookup key) rule)
      (other.judgeField (extendPath defaultSeparator place key) (entries.lookup key) rule))
    (others : like.alike (one.judgeFields path entries rest) (other.judgeFields place entries rest)) :
    like.alike (one.judgeFields path entries ((key, rule) :: rest))
      (other.judgeFields place entries ((key, rule) :: rest)) := by
  rw [Judge.judgeFields, Judge.judgeFields]
  exact like.sequence first fun verdict => like.mapped _ others

/-- Records are judged alike, whatever the fields. -/
theorem judge_fields (fields : Schema) (together : like.records path place)
    (named : Schema.allKeys like.keys fields = true)
    (called : ∀ callee, .predicate callee ∈ Schema.parts fields → callees callee)
    (entries : List (String × Value)) :
    like.alike (one.judgeFields path entries fields) (other.judgeFields place entries fields) := by
  induction fields using Schema.induction generalizing path place entries with
  | nil => exact like.returning []
  | leaf key rule rest leaf ih =>
    simp only [Schema.allKeys, Bool.and_eq_true] at named
    refine like.judge_field_then (like.judge_field _ (like.warnings path place key together named.1.1)
        (fun callee part => called callee (List.mem_append_left _ part)) ?_)
      (ih together named.2 (fun callee part => called callee (List.mem_append_right _ part)) entries)
    rintro inner _ rfl
    exact absurd rfl (Rule.leaf_plain leaf inner)
  | broken key fault rest ih =>
    simp only [Schema.allKeys, Bool.and_eq_true] at named
    refine like.judge_field_then (like.judge_field _ (like.warnings path place key together named.1.1)
        (fun callee part => called callee (List.mem_append_left _ part)) fun inner _ same => ?_)
      (ih together named.2 (fun callee part => called callee (List.mem_append_right _ part)) entries)
    cases same
  | nested key inner rest inside below =>
    simp only [Schema.allKeys, Rule.allKeys, Bool.and_eq_true] at named
    refine like.judge_field_then (like.judge_field _ (like.warnings path place key together named.1.1)
        (fun callee part => called callee (List.mem_append_left _ part)) ?_)
      (below together named.2 (fun callee part => called callee (List.mem_append_right _ part)) entries)
    rintro _ record ⟨⟩
    exact inside (like.inside path place key together named.1.1) named.1.2
      (fun callee part => called callee (List.mem_append_left _ part)) record

end Judge.Likeness

/-- What the runs of a judge uphold: a relation of the state that a run comes in, the
state that it leaves, and its events. It holds of doing nothing, and of one stretch
of a run after another. -/
structure Judge.Upkeep (judge : Judge σ) (callees : Callable → Prop) where
  upheld : σ → σ → List Event → Prop
  still : ∀ state, upheld state state []
  onward : ∀ {before middle after : σ} {events more : List Event}, upheld before middle events →
    upheld middle after more → upheld before after (events ++ more)
  calls : ∀ callee v, callees callee → ∀ state,
    upheld state (judge.holds callee v state).state (judge.holds callee v state).events
  /-- Whether warnings uphold it too. -/
  warned : Prop
  warnings : warned → ∀ notice : Notice, notice.level = .warning → ∀ state,
    upheld state state [.logged judge.logger notice]

namespace Judge.Upkeep

variable {judge : Judge σ} {callees : Callable → Prop}

/-- What is upheld is a likeness of the judge with itself. -/
private def likeness (upkeep : Upkeep judge callees) : Likeness judge judge callees where
  alike first _ := ∀ state, upkeep.upheld state (first state).state (first state).events
  returning _ state := upkeep.still state
  failing _ state := upkeep.still state
  sequence {_ _ first _ _ _} head tail state := by
    have start := head state
    rcases ran : first state with ⟨_ | a, middle, events⟩ <;> rw [ran] at start
    · rw [Action.bind_of_error ran]
      exact start
    · rw [Action.bind_of_ok ran]
      exact upkeep.onward start (tail a middle)
  calls := upkeep.calls
  records _ _ := upkeep.warned
  keys _ := true
  warnings _ _ _ warned _ notice warning state :=
    upkeep.warnings warned _ ((notice.moved_level _).trans warning) state
  inside _ _ _ warned _ := warned

variable (upkeep : Upkeep judge callees) {path : String} {rule : Rule}
include upkeep

theorem check_scalar (scalar : rule.isScalar = true)
    (called : ∀ callee, .predicate callee ∈ rule.parts → callees callee) (v : Value) (state : σ) :
    upkeep.upheld state (judge.checkSimple path rule v state).state (judge.checkSimple path rule v state).events := by
  have alike : upkeep.likeness.alike (judge.checkSimple path rule v) (judge.checkSimple path rule v) :=
    upkeep.likeness.check_scalar scalar called v
  exact alike state

theorem all_pass {check : Value → Action σ Bool}
    (each : ∀ v state, upkeep.upheld state (check v state).state (check v state).events) (elements : List Value)
    (state : σ) : upkeep.upheld state (Judge.allPass check elements state).state
      (Judge.allPass check elements state).events := by
  have alike : upkeep.likeness.alike (Judge.allPass check elements) (Judge.allPass check elements) :=
    upkeep.likeness.all_pass each elements
  exact alike state

theorem judge_fields (warned : upkeep.warned) (fields : Schema)
    (called : ∀ callee, .predicate callee ∈ Schema.parts fields → callees callee)
    (entries : List (String × Value)) (state : σ) :
    upkeep.upheld state (judge.judgeFields path entries fields state).state
      (judge.judgeFields path entries fields state).events := by
  have together : upkeep.likeness.records path path := warned
  exact upkeep.likeness.judge_fields fields together (Schema.any_keys fields) called entries state

end Judge.Upkeep
end RecordSchema
