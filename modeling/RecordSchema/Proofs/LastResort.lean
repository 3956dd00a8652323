import RecordSchema.Proofs.ArrayElements
import RecordSchema.Proofs.Trials

/-! The last resort. A value that is tried by a rule that cannot judge one fails, and the
logger is told that the rule is not supported. With rule objects wherever rules belong this
never comes about: no trial is made but those that are meant to be made, and a run leaves
nothing but calls, what the callees leave, warnings of four other kinds and its report. A
predicate may ask another validator, and then the same is asked of that one. -/
namespace RecordSchema

variable {σ : Type}

/-- What judging leaves when the last resort is out of reach: the calls of some callees with
what they leave themselves, warnings of the other four kinds, and records of reports. -/
inductive Judge.MayLeave (judge : Judge σ) (callees : Callable → Prop) : Event → Prop where
  | call {callee : Callable} (v : Value) (called : callees callee) : Judge.MayLeave judge callees (.called callee v)
  | during {callee : Callable} {v : Value} {before : σ} {event : Event} (called : callees callee)
      (left : event ∈ (judge.host callee v before).events) : Judge.MayLeave judge callees event
  | notARecord (path found : String) : Judge.MayLeave judge callees (.logged judge.logger (.notARecord path found))
  | unrecognizedRule (path : String) (raw : Value) :
      Judge.MayLeave judge callees (.logged judge.logger (.unrecognizedRule path raw))
  | unsupportedItem (path kind : String) :
      Judge.MayLeave judge callees (.logged judge.logger (.unsupportedItem path kind))
  | unsupportedMember (path kind : String) :
      Judge.MayLeave judge callees (.logged judge.logger (.unsupportedMember path kind))
  | judged (report : Report) : Judge.MayLeave judge callees (.logged judge.logger (.judged report))

/-- All events that an action leaves, from whatever state, are of a sort. -/
def Action.LeavesOnly {α : Type} (sort : Event → Prop) (action : Action σ α) : Prop :=
  ∀ state, ∀ event ∈ (action state).events, sort event

/-- A log record says that a rule is not supported as such. -/
def Event.TellsUnsupportedRule (event : Event) : Prop :=
  ∃ logger notice text, event = .logged logger notice ∧ notice.message = "Unsupported rule " ++ text

namespace LastResort

variable {judge : Judge σ} {rule : Rule} {fields : Schema} {path : String} {v : Value}
  {entries : List (String × Value)} {callees : Callable → Prop} {α β : Type} {sort : Event → Prop}

/-! ## What is left -/

theorem leaves_nothing {action : Action σ α} (nothing : ∀ state, (action state).events = []) :
    action.LeavesOnly sort := by
  intro state
  rw [nothing state]
  exact List.forall_mem_nil sort

theorem leaves_pure (a : α) : (pure a : Action σ α).LeavesOnly sort := leaves_nothing fun _ => rfl

theorem leaves_fail (fault : Fault) : (Action.fail fault : Action σ α).LeavesOnly sort := leaves_nothing fun _ => rfl

theorem leaves_of_except (outcome : Except Fault α) :
    (Action.ofExcept outcome : Action σ α).LeavesOnly sort :=
  leaves_nothing fun _ => congrArg Outcome.events (Action.of_except_run outcome)

theorem leaves_sequence {first : Action σ α} {next : α → Action σ β} (head : first.LeavesOnly sort)
    (tail : ∀ a, (next a).LeavesOnly sort) : (first >>= next).LeavesOnly sort := by
  intro state
  have start := head state
  rcases ran : first state with ⟨_ | a, middle, events⟩ <;> rw [ran] at start
  · rw [Action.bind_of_error ran]
    exact start
  · rw [Action.bind_of_ok ran]
    exact List.forall_mem_append.mpr ⟨start, tail a middle⟩

theorem leaves_map (f : α → β) {action : Action σ α} (leaves : action.LeavesOnly sort) :
    (f <$> action).LeavesOnly sort := by
  intro state
  rw [Action.map_run]
  exact leaves state

theorem leaves_log {logger : String} {notice : Notice} (told : sort (.logged logger notice)) (a : α) :
    (do .log logger notice; pure a : Action σ α).LeavesOnly sort :=
  fun _ => List.forall_mem_singleton.mpr told

theorem leaves_and {first next : Action σ Bool} (head : first.LeavesOnly sort) (tail : next.LeavesOnly sort) :
    (do if ← first then next else pure false).LeavesOnly sort := by
  refine leaves_sequence head fun passed => ?_
  cases passed with
  | true => exact tail
  | false => exact leaves_pure false

theorem scalar_leaves (scalar : rule.isScalar = true)
    (called : ∀ callee, .predicate callee ∈ rule.parts → callees callee) (v : Value) :
    (judge.checkSimple path rule v).LeavesOnly (judge.MayLeave callees) := by
  intro state
  rw [ArrayElements.check_scalar_events scalar]
  cases rule with
  | predicate callee =>
    have named : callees callee := called callee (List.mem_singleton_self _)
    exact List.forall_mem_cons.mpr ⟨.call v named, fun _ left => .during named left⟩
  | _ => exact nofun

theorem elements_leave {check : Value → Action σ Bool} (each : ∀ v, (check v).LeavesOnly sort)
    (elements : List Value) : (Judge.allPass check elements).LeavesOnly sort := by
  induction elements with
  | nil => exact leaves_pure true
  | cons element rest ih => exact leaves_and (each element) ih

theorem simple_leaves (simple : rule.isSimple = true)
    (called : ∀ callee, .predicate callee ∈ rule.parts → callees callee) :
    (judge.checkSimple path rule v).LeavesOnly (judge.MayLeave callees) := by
  cases rule with
  | array item =>
    rw [Judge.checkSimple]
    cases Judge.elements? v with
    | none => exact leaves_pure false
    | some elements =>
      simp only
      split
      next scalar => exact elements_leave (scalar_leaves scalar called) elements
      next complex =>
        split
        · exact leaves_pure true
        · exact leaves_log (.unsupportedItem path item.typeName) false
  | composite | nested | unrecognized | foreign => cases simple
  | broken kind fault => exact leaves_fail fault
  | _ => exact scalar_leaves rfl called v

theorem members_leave (members : List Rule)
    (called : ∀ callee, .predicate callee ∈ Rule.memberParts members → callees callee) :
    (judge.checkMembers path members v).LeavesOnly (judge.MayLeave callees) := by
  induction members with
  | nil => exact leaves_pure true
  | cons member rest ih =>
    rw [Judge.checkMembers]
    split
    next simple =>
      refine leaves_and (simple_leaves simple fun callee part => called callee ?_)
        (ih fun callee part => called callee ?_)
      · exact List.mem_append_left _ part
      · exact List.mem_append_right _ part
    next complex => exact leaves_log (.unsupportedMember path member.typeName) false

theorem present_leaves (leaf : rule.kind? ≠ some .nested)
    (admitted : ∀ trial ∈ rule.trials, trial.1.admits trial.2 = true)
    (called : ∀ callee, .predicate callee ∈ rule.parts → callees callee) :
    (judge.checkPresent path rule v).LeavesOnly (judge.MayLeave callees) := by
  have tried (trials : rule.trials = (.field, rule) :: rule.itemTrials) :
      (judge.checkSimple path rule v).LeavesOnly (judge.MayLeave callees) := by
    rw [trials, List.forall_mem_cons] at admitted
    exact simple_leaves admitted.1 called
  cases rule with
  | composite members => exact members_leave members called
  | unrecognized raw => exact leaves_log (.unrecognizedRule path raw) false
  | nested fields => exact absurd rfl leaf
  | broken kind fault => exact leaves_fail fault
  | _ => exact tried rfl

theorem leaf_leaves (slot : Option Value) (leaf : rule.kind? ≠ some .nested)
    (admitted : ∀ trial ∈ rule.trials, trial.1.admits trial.2 = true)
    (called : ∀ callee, .predicate callee ∈ rule.parts → callees callee) :
    (judge.judgeLeaf path slot rule).LeavesOnly (judge.MayLeave callees) := by
  unfold Judge.judgeLeaf
  split
  · exact leaves_fail _
  · exact leaves_pure _
  · exact leaves_pure _
  · cases slot with
    | none => exact leaves_pure false
    | some v => exact present_leaves leaf admitted called

theorem refusal_leaves (slot : Option Value) :
    (judge.refuseNested path slot).LeavesOnly (judge.MayLeave callees) :=
  leaves_log (.notARecord path _) _

/-- Judging by fields whose trials are admitted leaves nothing of the last resort. -/
theorem fields_leave (fields : Schema) (admitted : ∀ trial ∈ Schema.trials fields, trial.1.admits trial.2 = true)
    (called : ∀ callee, .predicate callee ∈ Schema.parts fields → callees callee) :
    (judge.judgeFields path entries fields).LeavesOnly (judge.MayLeave callees) := by
  induction fields using Schema.induction generalizing path entries with
  | nil => exact leaves_pure []
  | leaf key rule rest leaf ih =>
    obtain ⟨own, others⟩ := List.forall_mem_append.mp admitted
    rw [Judge.judgeFields, Judge.judge_field_leaf leaf]
    refine leaves_sequence (leaves_map _ (leaf_leaves _ leaf own fun callee part => called callee ?_)) fun _ =>
      leaves_map _ (ih others fun callee part => called callee ?_)
    · exact List.mem_append_left _ part
    · exact List.mem_append_right _ part
  | broken key fault rest ih =>
    obtain ⟨-, others⟩ := List.forall_mem_append.mp admitted
    rw [Judge.judgeFields, Judge.judgeField]
    refine leaves_sequence ?_ fun _ =>
      leaves_map _ (ih others fun callee part => called callee (List.mem_append_right _ part))
    split
    · exact leaves_fail _
    · exact refusal_leaves _
  | nested key inner rest inside below =>
    obtain ⟨own, others⟩ := List.forall_mem_append.mp admitted
    rw [Judge.judgeFields, Judge.judgeField]
    refine leaves_sequence ?_ fun _ =>
      leaves_map _ (below others fun callee part => called callee (List.mem_append_right _ part))
    split
    · exact leaves_map _ (inside own fun callee part => called callee (List.mem_append_left _ part))
    · exact refusal_leaves _

theorem validate_leaves {schema : Schema} {data : Value}
    (admitted : ∀ trial ∈ Schema.trials schema, trial.1.admits trial.2 = true) :
    (judge.validate schema data).LeavesOnly (judge.MayLeave fun callee => .predicate callee ∈ Schema.parts schema) :=
  leaves_sequence (fields_leave schema admitted fun _ => id) fun report => leaves_log (.judged report) report

/-! ## What is told -/

theorem opens_append {first second : String} {i : Nat} {c : Char} (opens : first.toList[i]? = some c) :
    (first ++ second).toList[i]? = some c := by
  rw [String.toList_append, List.getElem?_append_left (List.getElem?_eq_some_iff.mp opens).1]
  exact opens

/-- The last resort is told from all other trouble by how its text begins. -/
theorem unsupported_rule_text {notice : Notice} :
    (∃ text, notice.message = "Unsupported rule " ++ text) ↔
      ∃ path kind, notice = .unsupportedRule path kind := by
  constructor
  · rintro ⟨text, told⟩
    have shared {i : Nat} {c d : Char} (here : notice.message.toList[i]? = some c)
        (there : "Unsupported rule ".toList[i]? = some d) : c = d := by
      rw [told, opens_append there] at here
      exact (Option.some.inj here).symm
    -- Every other text differs from this one at a letter before its first gap is filled.
    cases notice with
    | unsupportedRule path kind => exact ⟨path, kind, rfl⟩
    | notARecord path found =>
      have differs : 'h' = 's' :=
        shared (i := 2) (opens_append (opens_append (opens_append (opens_append rfl)))) rfl
      cases differs
    | unrecognizedRule path raw =>
      have differs : 'h' = 's' :=
        shared (i := 2) (opens_append (opens_append (opens_append (opens_append rfl)))) rfl
      cases differs
    | unsupportedItem path kind =>
      have differs : 'i' = 'r' := shared (i := 12) (opens_append (opens_append (opens_append rfl))) rfl
      cases differs
    | unsupportedMember path kind =>
      have differs : 'c' = 'r' := shared (i := 12) (opens_append (opens_append (opens_append rfl))) rfl
      cases differs
    | judged report =>
      have differs : 'v' = 'U' := shared (i := 0) (opens_append rfl) rfl
      cases differs
    | rowsJudged rows columns =>
      have differs : 'v' = 'U' :=
        shared (i := 0) (opens_append (opens_append (opens_append (opens_append rfl)))) rfl
      cases differs
  · rintro ⟨path, kind, rfl⟩
    have first : "Unsupported rule " ++ kind ++ " at " ++ path = "Unsupported rule " ++ kind ++ (" at " ++ path) :=
      String.append_assoc
    exact ⟨kind ++ (" at " ++ path), first.trans String.append_assoc⟩

theorem told_during_call {event : Event} (left : judge.MayLeave callees event)
    (tells : event.TellsUnsupportedRule) :
    ∃ callee v before, callees callee ∧ event ∈ (judge.host callee v before).events := by
  obtain ⟨logger, notice, text, rfl, told⟩ := tells
  obtain ⟨path, kind, rfl⟩ := unsupported_rule_text.mp ⟨text, told⟩
  -- What judging leaves by itself is calls and notices of other kinds.
  cases left with
  | during called left => exact ⟨_, _, _, called, left⟩

/-- A validation tells of unsupported rules only what the calls of its predicates tell of them. -/
theorem validate_told {validator : Validator} {host : Host σ}
    (formed : ∀ field ∈ validator.objects, field.2.IsRule) (data : Value) :
    (validator.validate host data).LeavesOnly fun event => event.TellsUnsupportedRule →
      ∃ callee v before, .predicate callee ∈ Schema.parts validator.schema ∧
        event ∈ (host callee v before).events := by
  intro state event left tells
  exact told_during_call (validate_leaves (Trials.validator_trials_admitted formed) state event left) tells

theorem behaviour_leaves {behaviour : Behaviour} {host : Host Tally} {calls : Nat}
    (asked : ∀ inner, behaviour = .validUnder inner → (inner.validate host v).LeavesOnly sort) :
    (behaviour.run host calls v).LeavesOnly sort := by
  cases behaviour with
  | validUnder inner => exact leaves_sequence (asked inner rfl) fun report => leaves_pure _
  | above bound => exact leaves_map _ (leaves_of_except _)
  | floatPositive => exact leaves_sequence (leaves_of_except _) fun x => leaves_map _ (leaves_of_except _)
  | lengthIs length =>
    rw [Behaviour.run]
    cases v.length? with
    | none => exact leaves_fail _
    | some n =>
      obtain ⟨result, answered⟩ := Action.comparison_answer_run (σ := Tally) ((Value.int n).equal length)
      exact leaves_nothing fun state => congrArg Outcome.events (answered state)
  | refuses error text => exact leaves_fail _
  | _ => exact leaves_pure _

/-- The ready-made predicates tell of no unsupported rule if the validators that they ask are
filled with rule objects. -/
theorem catalogue_untold {catalogue : Catalogue}
    (formed : ∀ inner, .validUnder inner ∈ catalogue → ∀ field ∈ inner.objects, field.2.IsRule)
    (depth : Nat) (callee : Callable) (v : Value) :
    (catalogue.hostWithin depth callee v).LeavesOnly fun event => ¬ event.TellsUnsupportedRule := by
  induction depth generalizing callee v with
  | zero => exact leaves_fail _
  | succ depth ih =>
    cases callee with
    | builtin function => exact leaves_of_except _
    | predicate id name | function id name =>
      rw [Catalogue.hostWithin]
      cases found : catalogue[id]? with
      | none => exact leaves_fail _
      | some behaviour =>
        refine leaves_sequence (leaves_nothing fun _ => rfl) fun calls => behaviour_leaves ?_
        rintro inner rfl
        -- The calls that the inner validator makes are those of a smaller depth.
        intro state event left tells
        obtain ⟨callee, w, before, -, during⟩ :=
          validate_told (formed inner (List.mem_of_getElem? found)) v state event left tells
        exact ih callee w before event during tells

/-- The last resort is never reached. Let an authored schema be any mapping in which the rule
objects built by hand have rule objects wherever rules belong. Then it is read, and all
that comes out has rule objects wherever rules belong, at every depth. Under every meaning of
calls and for every value, judging by it makes only trials that are meant to be made: of
fields and members by primitive rules, predicates, enumerations and arrays, and of elements
by the first three. For whatever a watch would do about other trials, with it and without
it the runs from every state are the same, also those that fail. No run tells of an
unsupported rule, unless the call of a predicate in it does, and the ready-made predicates do
not if the validators that they ask have rule objects wherever rules belong. -/
theorem last_resort_unreached (shape : MappingKind) (entries : List (String × Value)) (logger : String)
    (formed : ∀ object ∈ Value.handBuiltFields entries, object.IsRule) :
    ∃ validator, Validator.ofAuthored (.mapping shape entries) logger = .ok validator ∧
      (∀ field ∈ validator.objects, field.2.IsRule) ∧
      (∀ (σ : Type) (host : Host σ) (data : Value),
        (∀ watch : Watch σ, (∀ place rule, place.admits rule = true → watch.Ignores place rule) →
          WatchedJudge.validate ⟨validator.judge host, watch⟩ validator.schema data = validator.validate host data) ∧
        ∀ state, ∀ event ∈ (validator.validate host data state).events, event.TellsUnsupportedRule →
          ∃ callee v before, .predicate callee ∈ Schema.parts validator.schema ∧
            event ∈ (host callee v before).events) ∧
      ∀ catalogue : Catalogue,
        (∀ inner, .validUnder inner ∈ catalogue → ∀ field ∈ inner.objects, field.2.IsRule) →
        ∀ data tally, ∀ event ∈ (validator.validate catalogue.host data tally).events,
          ¬ event.TellsUnsupportedRule := by
  let validator : Validator := ⟨Value.ruleEntries entries, logger⟩
  have filled : ∀ field ∈ validator.objects, field.2.IsRule := RuleObjects.fields_formed formed
  refine ⟨validator, rfl, filled, fun σ host data => ⟨fun watch ignores => ?_, validate_told filled data⟩, ?_⟩
  · refine Trials.validate_unheard fun trial among => ignores trial.1 trial.2 ?_
    exact Trials.validator_trials_admitted filled trial among
  · intro catalogue inside data tally event left tells
    obtain ⟨callee, v, before, -, during⟩ := validate_told filled data tally event left tells
    exact catalogue_untold inside _ callee v before event during tells

/-- A schema with two rule objects built by hand and a predicate that asks another validator, at
a record that fails three times. A member of a composite is of no kind that members can
have, and of this the logger is told; it is told of no other rule, and the alarm does not end
the run. -/
theorem walkthrough_last_resort :
    let city := [("city", Value.rule .primitive (.text "string"))]
    let address := Value.rule .nested (.mapping .plain city)
    let positive := Value.rule .predicate (.callable Walkthrough.isPositive)
    let isHome := Callable.predicate 1 "valid_under"
    let catalogue : Catalogue := [.above (.int 0), .validUnder ⟨city, validatorLogger⟩]
    let entries := [("status", Value.list [.text "string", .int 5]), ("address", address),
      ("home", .callable isHome), ("balances", .mapping .plain [(itemTypeKey, positive)])]
    let home := Value.mapping .plain [("city", .null)]
    let data := Value.mapping .plain [("status", .text "active"),
      ("address", .mapping .plain [("city", .text "London")]), ("home", home),
      ("balances", .list [.int 1, .int (-2)])]
    let report : Report := [("status", .leaf false), ("address", .branch [("city", .leaf true)]),
      ("home", .leaf false), ("balances", .leaf false)]
    let events : List Event := [.logged validatorLogger (.unsupportedMember "status" "UnrecognizedRule"),
      .called isHome home, .logged validatorLogger (.judged [("city", .leaf false)]),
      .called Walkthrough.isPositive (.int 1), .called Walkthrough.isPositive (.int (-2)),
      .logged validatorLogger (.judged report)]
    Value.handBuiltFields entries = [address, positive] ∧ (∀ object ∈ [address, positive], object.IsRule) ∧
    ∃ validator, Validator.ofAuthored (.mapping .plain entries) validatorLogger = .ok validator ∧
      (∀ field ∈ validator.objects, field.2.IsRule) ∧
      validator.validate catalogue.host data [] = ⟨.ok report, [(0, 2), (1, 1)], events⟩ ∧
      WatchedJudge.validate ⟨validator.judge catalogue.host, .alarm⟩ validator.schema data [] =
        ⟨.ok report, [(0, 2), (1, 1)], events⟩ ∧
      ∀ event ∈ events, ¬ event.TellsUnsupportedRule := by
  intro city address positive isHome catalogue entries home data report events
  have city_formed : ∀ field ∈ city, field.2.IsRule := List.forall_mem_singleton.mpr (.plain _ rfl)
  have formed : ∀ object ∈ [address, positive], object.IsRule :=
    List.forall_mem_cons.mpr ⟨.nested .plain city_formed, List.forall_mem_singleton.mpr (.plain _ rfl)⟩
  have asked : ∀ inner, .validUnder inner ∈ catalogue → ∀ field ∈ inner.objects, field.2.IsRule := by
    intro inner listed
    rcases List.mem_pair.mp listed with same | same
    · cases same
    · cases same
      exact city_formed
  have quiet (place : Place) (rule : Rule) (admitted : place.admits rule = true) :
      (Watch.alarm : Watch Tally).Ignores place rule := fun _ _ => if_pos admitted
  have built_by_hand : Value.handBuiltFields entries = [address, positive] := rfl
  obtain ⟨validator, built, filled, judged, untold⟩ :=
    last_resort_unreached .plain entries validatorLogger (built_by_hand ▸ formed)
  cases built
  have ran : (⟨Value.ruleEntries entries, validatorLogger⟩ : Validator).validate catalogue.host data [] =
      ⟨.ok report, [(0, 2), (1, 1)], events⟩ := rfl
  have told := untold catalogue asked data []
  rw [ran] at told
  refine ⟨built_by_hand, formed, _, rfl, filled, ran, ?_, told⟩
  exact (congrFun ((judged Tally catalogue.host data).1 .alarm quiet) []).trans ran

/-- Below a nested rule built by hand with a number for a rule, the last resort is reached: the
logger is told, and the watch that stops at unsuited rules ends the run. -/
example :
    let validator : Validator :=
      ⟨Value.ruleEntries [("address", .rule .nested (.mapping .plain [("city", .int 5)]))], validatorLogger⟩
    let data := Value.mapping .plain [("address", .mapping .plain [("city", .text "London")])]
    (validator.validate Walkthrough.host data []).events =
      [.logged validatorLogger (.unsupportedRule "address.city" "int"),
        .logged validatorLogger (.judged [("address", .branch [("city", .leaf false)])])] ∧
    (WatchedJudge.validate ⟨validator.judge Walkthrough.host, .alarm⟩ validator.schema data []).result =
      .error .unsupported := ⟨by rfl, by rfl⟩

end LastResort
end RecordSchema
