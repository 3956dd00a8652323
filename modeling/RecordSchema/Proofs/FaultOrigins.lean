import RecordSchema.Proofs.Likeness
import RecordSchema.Proofs.PathVerdicts
import RecordSchema.Walkthrough

/-! Where a fault comes from. A run that fails has come to a part of a rule, a
predicate or an enumeration, and ends there: with what the call of the predicate
does, or with a comparison that a missing cell or a signalling decimal refuses. So
the fault is that of the last call or of that comparison, and nothing is called or
told afterwards. -/
namespace RecordSchema

variable {σ : Type}

/-- Trying a value by a rule comes to try a value by a part of the rule: from a
state to another one, with what is left on the way. What comes before a part in an
array or a composite has passed. -/
inductive Judge.Tries (judge : Judge σ) (path : String) :
    Rule → Value → σ → List Event → Rule → Value → σ → Prop where
  | part {rule : Rule} {v : Value} {state : σ} (scalar : rule.isScalar = true) :
      Judge.Tries judge path rule v state [] rule v state
  | element {item : Rule} {v element : Value} {earlier later : List Value} {state there : σ} {events : List Event}
      (array : Judge.elements? v = some (earlier ++ element :: later)) (scalar : item.isScalar = true)
      (passed : Judge.allPass (judge.checkSimple path item) earlier state = ⟨.ok true, there, events⟩) :
      Judge.Tries judge path (.array item) v state events item element there
  | member {earlier later : List Rule} {member part : Rule} {v w : Value} {state middle there : σ}
      {events more : List Event} (passed : judge.checkMembers path earlier v state = ⟨.ok true, middle, events⟩)
      (simple : member.isSimple = true) (tried : Judge.Tries judge path member v middle more part w there) :
      Judge.Tries judge path (.composite (earlier ++ member :: later)) v state (events ++ more) part w there

/-- Judging a record comes to try a value by a part of a rule at or below one of
the fields. The fields before it have returned. -/
inductive Judge.Reaches (judge : Judge σ) :
    String → List (String × Value) → Schema → σ → List Event → Rule → Value → σ → Prop where
  | field {path key : String} {entries : List (String × Value)} {rule part : Rule} {rest : Schema} {v w : Value}
      {state there : σ} {events : List Event} (plain : ∀ inner, rule ≠ .nested inner)
      (found : entries.lookup key = some v)
      (tried : judge.Tries (extendPath defaultSeparator path key) rule v state events part w there) :
      Judge.Reaches judge path entries ((key, rule) :: rest) state events part w there
  | inside {path key : String} {entries record : List (String × Value)} {inner rest : Schema} {part : Rule}
      {w : Value} {state there : σ} {events : List Event} (opens : Value.Opens (entries.lookup key) record)
      (below : Judge.Reaches judge (extendPath defaultSeparator path key) record inner state events part w there) :
      Judge.Reaches judge path entries ((key, .nested inner) :: rest) state events part w there
  | later {path key : String} {entries : List (String × Value)} {rule part : Rule} {rest : Schema} {w : Value}
      {verdict : Verdict} {state middle there : σ} {events more : List Event}
      (judged : judge.judgeField (extendPath defaultSeparator path key) (entries.lookup key) rule state =
        ⟨.ok verdict, middle, events⟩)
      (after : Judge.Reaches judge path entries rest middle more part w there) :
      Judge.Reaches judge path entries ((key, rule) :: rest) state (events ++ more) part w there

/-- A fault, with the state and the events at the end of its run, comes from a
part that the run comes to: trying the part ends in the fault, and so does the run. -/
def Judge.FailsAt (judge : Judge σ) (comes : List Event → Rule → Value → σ → Prop) (fault : Fault) (after : σ)
    (events : List Event) : Prop :=
  ∃ earlier part w place there own, comes earlier part w there ∧
    judge.checkSimple place part w there = ⟨.error fault, after, own⟩ ∧ events = earlier ++ own

/-- Trying a value by a part of a rule ends in a fault: with the state that is
left and what it leaves itself. -/
inductive Host.Refuses (host : Host σ) : Rule → Value → σ → Fault → σ → List Event → Prop where
  /-- The call fails. -/
  | call {callee : Callable} {v : Value} {state after : σ} {fault : Fault}
      (refused : host callee v state = ⟨.error fault, after, []⟩) :
      Host.Refuses host (.predicate callee) v state fault after [.called callee v]
  /-- The call gives a value whose truth cannot be told. -/
  | truth {callee : Callable} {v answer : Value} {state after : σ} {fault : Fault}
      (answered : host callee v state = ⟨.ok answer, after, []⟩) (untold : answer.truth = .error fault) :
      Host.Refuses host (.predicate callee) v state fault after [.called callee v]
  /-- The comparison with a literal is refused by what one of the two holds: left undetermined by a
  missing cell, or refused by a signalling decimal with the fault of its own. -/
  | comparison {earlier later : List Value} {literal v : Value} {state : σ} {fault : Fault}
      (differ : ∀ other ∈ earlier, v.strictEqual other = .ok false) (refused : v.strictEqual literal = .error fault)
      (held : v.HoldsRefusal fault ∨ literal.HoldsRefusal fault) :
      Host.Refuses host (.enumeration (earlier ++ literal :: later)) v state fault state []

/-- A callee leaves no events of its own: it tells no logger and makes no calls
that are seen. -/
def Host.Silent (host : Host σ) (callee : Callable) : Prop := ∀ v state, (host callee v state).events = []

namespace FaultOrigins

variable {judge : Judge σ} {path : String} {rule : Rule} {v : Value} {state after : σ} {fault : Fault}
  {events : List Event}

/-! ## Where checks fail -/

/-- Elements fail at the first one whose check fails, after those before it have passed. -/
theorem all_pass_fails {check : Value → Action σ Bool} {elements : List Value}
    (ran : Judge.allPass check elements state = ⟨.error fault, after, events⟩) :
    ∃ earlier element later middle before own, elements = earlier ++ element :: later ∧
      Judge.allPass check earlier state = ⟨.ok true, middle, before⟩ ∧
      check element middle = ⟨.error fault, after, own⟩ ∧ events = before ++ own := by
  induction elements generalizing state events with
  | nil => cases ran
  | cons element rest ih =>
    rw [Judge.allPass] at ran
    rcases Action.bind_fails ran with failed | ⟨passed, middle, before, own, first, second, rfl⟩
    · exact ⟨[], element, rest, state, [], events, rfl, rfl, failed, rfl⟩
    · cases passed with
      | false => cases second
      | true =>
        obtain ⟨earlier, next, later, there, between, last, rfl, passed, failed, rfl⟩ := ih second
        refine ⟨element :: earlier, next, later, there, before ++ between, last, rfl, ?_, failed, by simp⟩
        rw [Judge.allPass]
        exact Action.bind_runs first passed

/-- Members fail at the first one that fails, a simple one, after those before it have passed. -/
theorem check_members_fails {members : List Rule}
    (ran : judge.checkMembers path members v state = ⟨.error fault, after, events⟩) :
    ∃ earlier member later middle before own, members = earlier ++ member :: later ∧
      judge.checkMembers path earlier v state = ⟨.ok true, middle, before⟩ ∧ member.isSimple = true ∧
      judge.checkSimple path member v middle = ⟨.error fault, after, own⟩ ∧ events = before ++ own := by
  induction members generalizing state events with
  | nil => cases ran
  | cons member rest ih =>
    rw [Judge.checkMembers] at ran
    split at ran
    next simple =>
      rcases Action.bind_fails ran with failed | ⟨passed, middle, before, own, first, second, rfl⟩
      · exact ⟨[], member, rest, state, [], events, rfl, rfl, simple, failed, rfl⟩
      · cases passed with
        | false => cases second
        | true =>
          obtain ⟨earlier, next, later, there, between, last, rfl, passed, simple', failed, rfl⟩ := ih second
          refine ⟨member :: earlier, next, later, there, before ++ between, last, rfl, ?_, simple', failed, by simp⟩
          rw [Judge.checkMembers, if_pos simple]
          exact Action.bind_runs first passed
    next complex => cases ran

theorem fails_within {comes comes' : List Event → Rule → Value → σ → Prop}
    (further : ∀ {earlier part w there}, comes earlier part w there → comes' earlier part w there)
    (fails : judge.FailsAt comes fault after events) : judge.FailsAt comes' fault after events := by
  obtain ⟨earlier, part, w, place, there, own, came, refused, rfl⟩ := fails
  exact ⟨earlier, part, w, place, there, own, further came, refused, rfl⟩

/-- What a run comes to after a stretch of another run, that one comes to as well. -/
theorem fails_later {comes comes' : List Event → Rule → Value → σ → Prop} {before : List Event}
    (further : ∀ {earlier part w there}, comes earlier part w there → comes' (before ++ earlier) part w there)
    (fails : judge.FailsAt comes fault after events) : judge.FailsAt comes' fault after (before ++ events) := by
  obtain ⟨earlier, part, w, place, there, own, came, refused, rfl⟩ := fails
  exact ⟨before ++ earlier, part, w, place, there, own, further came, refused, by simp⟩

/-- Checking a value by a simple rule fails at a part of the rule. -/
theorem check_simple_fails (simple : rule.isSimple = true) (sound : rule.isSound = true)
    (ran : judge.checkSimple path rule v state = ⟨.error fault, after, events⟩) :
    judge.FailsAt (judge.Tries path rule v state) fault after events := by
  cases rule with
  | array item =>
    rw [Judge.checkSimple] at ran
    cases array : Judge.elements? v with
    | none =>
      rw [array] at ran
      cases ran
    | some elements =>
      simp only [array] at ran
      split at ran
      next scalar =>
        obtain ⟨earlier, element, later, there, before, own, rfl, passed, failed, rfl⟩ := all_pass_fails ran
        exact ⟨before, item, element, path, there, own, .element array scalar passed, failed, rfl⟩
      next complex =>
        split at ran
        · cases ran
        · cases ran
  | composite | nested | unrecognized => cases simple
  | foreign | broken => cases sound
  | _ => exact ⟨[], _, v, path, state, events, .part rfl, ran, rfl⟩

theorem check_present_fails (plain : ∀ inner, rule ≠ .nested inner) (sound : rule.isSound = true)
    (ran : judge.checkPresent path rule v state = ⟨.error fault, after, events⟩) :
    judge.FailsAt (judge.Tries path rule v state) fault after events := by
  cases rule with
  | composite members =>
    obtain ⟨earlier, member, later, middle, before, more, rfl, passed, simple, failed, rfl⟩ :=
      check_members_fails ran
    have member_sound := RuleSoundness.member_sound sound (List.mem_append_right _ List.mem_cons_self)
    exact fails_later (.member passed simple) (check_simple_fails simple member_sound failed)
  | unrecognized raw => cases ran
  | nested inner => exact absurd rfl (plain inner)
  | foreign | broken => cases sound
  | _ => exact check_simple_fails rfl sound ran

/-- A leaf that fails has a value under its key. -/
theorem judge_leaf_fails {slot : Option Value} (plain : ∀ inner, rule ≠ .nested inner)
    (sound : rule.isSound = true) (ran : judge.judgeLeaf path slot rule state = ⟨.error fault, after, events⟩) :
    ∃ v, slot = some v ∧ judge.FailsAt (judge.Tries path rule v state) fault after events := by
  unfold Judge.judgeLeaf at ran
  split at ran
  · cases sound
  · cases ran
  · cases ran
  · cases slot with
    | none => cases ran
    | some v => exact ⟨v, rfl, check_present_fails plain sound ran⟩

/-- Judging a record by sound fields fails at a part of a rule at or below them. -/
theorem judge_fields_fails {entries : List (String × Value)} (fields : Schema) (sound : Schema.isSound fields = true)
    (ran : judge.judgeFields path entries fields state = ⟨.error fault, after, events⟩) :
    judge.FailsAt (judge.Reaches path entries fields state) fault after events := by
  induction fields using Schema.induction generalizing path entries state events with
  | nil => cases ran
  | leaf key rule rest leaf ih =>
    simp only [Schema.isSound, Bool.and_eq_true] at sound
    rcases Judge.judge_fields_cons_fails ran with failed | ⟨verdict, middle, before, more, judged, others, rfl⟩
    · rw [Judge.judge_field_leaf leaf] at failed
      obtain ⟨v, found, fails⟩ := judge_leaf_fails (Rule.leaf_plain leaf) sound.1 (Action.map_fails failed)
      exact fails_within (.field (Rule.leaf_plain leaf) found) fails
    · exact fails_later (.later judged) (ih sound.2 others)
  | broken key fault rest ih => simp [Schema.isSound, Rule.isSound] at sound
  | nested key inner rest inside below =>
    simp only [Schema.isSound, Rule.isSound, Bool.and_eq_true] at sound
    rcases Judge.judge_fields_cons_fails ran with failed | ⟨verdict, middle, before, more, judged, others, rfl⟩
    · cases record : Judge.record? (entries.lookup key) with
      | none =>
        -- Refusing what is in the way of a record is no failure of the run.
        rw [Judge.judge_field_refused record, Judge.refuse_nested_run] at failed
        cases failed
      | some found =>
        rw [Judge.judge_field_record record] at failed
        exact fails_within (.inside (PathVerdicts.record_opens.mp record))
          (inside sound.1 (Action.map_fails failed))
    · exact fails_later (.later judged) (below sound.2 others)

/-! ## What fails there -/

/-- A part that is come to is a part of the rule, and sound if the rule is. -/
theorem tries_part {part : Rule} {w : Value} {there : σ} (tried : judge.Tries path rule v state events part w there) :
    part.isScalar = true ∧ part ∈ rule.parts ∧ (rule.isSound = true → part.isSound = true) := by
  have own {rule : Rule} (scalar : rule.isScalar = true) : rule ∈ rule.parts := by
    cases rule with
    | array | composite | nested => cases scalar
    | _ => exact List.mem_singleton_self _
  induction tried with
  | part scalar => exact ⟨scalar, own scalar, id⟩
  | element array scalar passed => exact ⟨scalar, own scalar, id⟩
  | member passed simple tried ih =>
    refine ⟨ih.1, Acceptance.member_parts (List.mem_append_right _ List.mem_cons_self) ih.2.1, fun sound => ?_⟩
    exact ih.2.2 (RuleSoundness.member_sound sound (List.mem_append_right _ List.mem_cons_self))

theorem reaches_part {entries : List (String × Value)} {fields : Schema} {part : Rule} {w : Value} {there : σ}
    (reached : judge.Reaches path entries fields state events part w there) :
    part.isScalar = true ∧ part ∈ Schema.parts fields ∧ (Schema.isSound fields = true → part.isSound = true) := by
  induction reached with
  | field plain found tried =>
    obtain ⟨scalar, inside, sound⟩ := tries_part tried
    refine ⟨scalar, List.mem_append_left _ inside, fun all => ?_⟩
    rw [Schema.isSound, Bool.and_eq_true] at all
    exact sound all.1
  | inside opens below ih =>
    refine ⟨ih.1, List.mem_append_left _ ih.2.1, fun all => ?_⟩
    rw [Schema.isSound, Bool.and_eq_true] at all
    exact ih.2.2 all.1
  | later judged after ih =>
    refine ⟨ih.1, List.mem_append_right _ ih.2.1, fun all => ?_⟩
    rw [Schema.isSound, Bool.and_eq_true] at all
    exact ih.2.2 all.2

/-- Looking for a value among literals is refused by the first literal that
is not to be compared with it. -/
theorem among_refused {literals : List Value} (refused : v.isAmong literals = .error fault) :
    ∃ earlier literal later, literals = earlier ++ literal :: later ∧
      (∀ other ∈ earlier, v.strictEqual other = .ok false) ∧ v.strictEqual literal = .error fault := by
  induction literals with
  | nil => cases refused
  | cons literal rest ih =>
    rw [Value.isAmong] at refused
    split at refused
    next differs =>
      obtain ⟨earlier, next, later, rfl, differ, compared⟩ := ih refused
      exact ⟨literal :: earlier, next, later, rfl, List.forall_mem_cons.mpr ⟨differs, differ⟩, compared⟩
    next => exact ⟨[], literal, rest, rfl, by simp, refused⟩

/-- A predicate fails in its call or where the truth of the answer is asked for. -/
theorem holds_fails {callee : Callable} {own : List Event} (silent : judge.host.Silent callee)
    (ran : judge.holds callee v state = ⟨.error fault, after, own⟩) :
    judge.host.Refuses (.predicate callee) v state fault after own := by
  -- The run is the event of the call, then the call, then asking for the truth of the answer.
  have nothing := silent v state
  rcases Action.bind_fails ran with failed | ⟨_, _, _, more, emitted, called, rfl⟩
  · cases failed
  cases emitted
  rcases Action.bind_fails called with refused | ⟨answer, middle, before, told, answered, untold, rfl⟩
  · rw [refused] at nothing
    cases nothing
    exact .call refused
  · rw [answered] at nothing
    cases nothing
    cases truth : answer.truth with
    | ok b =>
      rw [truth] at untold
      cases untold
    | error fault =>
      rw [truth] at untold
      cases untold
      exact .truth answered truth

/-- A part that fails is a predicate that refuses or an enumeration one of whose
comparisons is refused. -/
theorem part_refuses {part : Rule} {own : List Event} (scalar : part.isScalar = true) (sound : part.isSound = true)
    (silent : ∀ callee, part = .predicate callee → judge.host.Silent callee)
    (ran : judge.checkSimple path part v state = ⟨.error fault, after, own⟩) :
    judge.host.Refuses part v state fault after own := by
  cases part with
  | primitive tag => cases ran
  | predicate callee =>
    exact holds_fails (silent callee rfl) ran
  | enumeration literals =>
    rw [Judge.checkSimple] at ran
    cases among : v.isAmong literals with
    | ok listed =>
      rw [among] at ran
      cases ran
    | error own_fault =>
      rw [among] at ran
      cases ran
      obtain ⟨earlier, literal, later, rfl, differ, refused⟩ := among_refused among
      exact .comparison differ refused (Comparison.strict_equal_refused refused)
  | broken => cases sound
  | _ => cases scalar

/-! ## What a run leaves -/

/-- While calls are silent, judging logs no report. -/
private def unreported (judge : Judge σ) : judge.Upkeep judge.host.Silent where
  upheld _ _ events := ∀ logger report, .logged logger (.judged report) ∉ events
  still _ _ _ := List.not_mem_nil
  onward head tail logger report left := (List.mem_append.mp left).elim (head logger report) (tail logger report)
  calls callee v silent state logger report left := by
    obtain ⟨result, after, ran⟩ := judge.holds_run callee v state
    rw [ran, silent] at left
    cases List.mem_singleton.mp left
  warned := True
  warnings _ notice warning state logger report left := by
    obtain ⟨-, rfl⟩ := Event.logged.inj (List.mem_singleton.mp left)
    cases warning

/-- The ready-made predicates of a catalogue are silent, unless a validator
stands inside one of them. -/
theorem catalogue_silent {catalogue : Catalogue} (alone : ∀ validator, .validUnder validator ∉ catalogue)
    (callee : Callable) : catalogue.host.Silent callee := by
  intro v tally
  have behaves {behaviour : Behaviour} (listed : behaviour ∈ catalogue) (host : Host Tally) (calls : Nat)
      (tally : Tally) : (behaviour.run host calls v tally).events = [] := by
    cases behaviour with
    | validUnder validator => exact absurd listed (alone validator)
    | above bound => rw [Behaviour.run, Action.map_run, Action.of_except_run]
    | floatPositive =>
      rw [Behaviour.run]
      cases v.toFloat with
      | error fault => rfl
      | ok x => rw [Action.of_except_ok, pure_bind, Action.map_run, Action.of_except_run]
    | lengthIs length =>
      rw [Behaviour.run]
      cases v.length? with
      | none => rfl
      | some n =>
        obtain ⟨result, answered⟩ := Action.comparison_answer_run (σ := Tally) ((Value.int n).equal length)
        exact congrArg Outcome.events (answered tally)
    | _ => rfl
  cases callee with
  | builtin function => exact congrArg Outcome.events (Action.of_except_run _)
  | predicate id name | function id name =>
    rw [Catalogue.host, Catalogue.hostWithin]
    cases found : catalogue[id]? with
    | none => rfl
    | some behaviour => exact behaves (List.mem_of_getElem? found) _ _ _

theorem entries_comparable {data : Value} (comparable : data.Comparable) :
    ∀ entry ∈ data.entries?.getD [], entry.2.Comparable := by
  cases data with
  | mapping kind entries => exact Comparison.comparable_entries comparable
  | _ => nofun

/-- Where there is nothing to call, and neither the value nor a literal holds a missing
cell or a signalling decimal, a validation returns. -/
theorem returns_uncalled {authored data : Value} {logger : String} {validator : Validator}
    (built : Validator.ofAuthored authored logger = .ok validator)
    (sound : Value.haveSoundRules (authored.entries?.getD []) = true)
    (uncalled : ∀ callee, .predicate callee ∉ Schema.parts validator.schema) (comparable : data.Comparable)
    (listed : ∀ literals, .enumeration literals ∈ Schema.parts validator.schema →
      ∀ literal ∈ literals, literal.Comparable) (host : Host σ) (state : σ) :
    ∃ report, (validator.validate host data state).result = .ok report := by
  have judged : ∃ report, ((validator.judge host).judgeFields "" (data.entries?.getD []) validator.schema
      state).result = .ok report ∧
        Schema.Yields (fun _ _ => false) validator.schema (data.entries?.getD []) report :=
    PathVerdicts.judge_fields_yields _ (RuleSoundness.validator_sound built sound)
      (fun callee part => absurd part (uncalled callee))
      (fun left right compared =>
        PathVerdicts.comparisons_comparable compared listed (entries_comparable comparable)) "" state
  obtain ⟨report, returned, -⟩ := judged
  exact ⟨report, Judge.validate_returns.mpr returned⟩

/-- Where a fault of a validation comes from. The validator is built from an
authored schema in which rule objects built by hand, if any, are sound, and calls
leave no events of their own. Then a run that fails has come to a part of a rule,
under a key of the record or deeper, and ends with it: a predicate whose call, the
last one of the run, fails or answers with what has no truth, or an enumeration one of
whose comparisons is refused by a missing cell or a signalling decimal in the value or
in the literal. What is left at the end are the events up to this part and, for a
predicate, the call itself, and no report is logged. So where no part is a predicate,
and neither the value nor a literal holds a missing cell or a signalling decimal, a
validation returns. -/
theorem faults_come_from_parts {authored : Value} {logger : String} {validator : Validator}
    (built : Validator.ofAuthored authored logger = .ok validator)
    (sound : Value.haveSoundRules (authored.entries?.getD []) = true) (host : Host σ)
    (silent : ∀ callee, .predicate callee ∈ Schema.parts validator.schema → host.Silent callee)
    (data : Value) (state : σ) :
    (∀ fault after events, validator.validate host data state = ⟨.error fault, after, events⟩ →
      (∃ earlier part v there own,
        (validator.judge host).Reaches "" (data.entries?.getD []) validator.schema state earlier part v there ∧
        host.Refuses part v there fault after own ∧ events = earlier ++ own) ∧
      ∀ logger report, .logged logger (.judged report) ∉ events) ∧
    ((∀ callee, .predicate callee ∉ Schema.parts validator.schema) → data.Comparable →
      (∀ literals, .enumeration literals ∈ Schema.parts validator.schema →
        ∀ literal ∈ literals, literal.Comparable) →
      ∃ report, (validator.validate host data state).result = .ok report) := by
  have whole := RuleSoundness.validator_sound built sound
  refine ⟨fun fault after events ran => ⟨?_, ?_⟩, fun uncalled comparable listed => ?_⟩
  · have failed := Validator.finds_iff.mp (show validator.Finds host data state ⟨.error fault, after, events⟩ from ran)
    obtain ⟨earlier, part, v, place, there, own, reached, refused, rfl⟩ := judge_fields_fails _ whole failed
    obtain ⟨scalar, inside, part_sound⟩ := reaches_part reached
    refine ⟨earlier, part, v, there, own, reached, part_refuses scalar (part_sound whole) ?_ refused, rfl⟩
    rintro callee rfl
    exact silent callee inside
  · have failed := Validator.finds_iff.mp (show validator.Finds host data state ⟨.error fault, after, events⟩ from ran)
    intro logger report left
    have unlogged : .logged logger (.judged report) ∉ ((validator.judge host).judgeFields ""
        (data.entries?.getD []) validator.schema state).events :=
      (unreported (validator.judge host)).judge_fields trivial validator.schema silent _ state logger report
    rw [failed] at unlogged
    exact unlogged left
  · exact returns_uncalled built sound uncalled comparable listed host state

/-- In the walkthrough a postal code is met after a balance, and there the run
ends if digits cannot be told; a schema of a status alone has no part that could
end a run. -/
theorem walkthrough_fault_origin :
    let host := Catalogue.host [.above (.int 0), .refuses "RuntimeError" "no digits"]
    let data := Value.mapping .plain
      [("balance", .int 5), ("address", .mapping .plain [("zip", .text "12345")]), ("status", .text "active")]
    let fault := Fault.refused "RuntimeError" "no digits"
    let tally : Tally := [(1, 1), (0, 1)]
    let events : List Event := [.called Walkthrough.isPositive (.int 5), .called Walkthrough.isDigits (.text "12345")]
    let statusOnly : Validator := ⟨Value.ruleEntries [("status", Walkthrough.status)], validatorLogger⟩
    Value.haveSoundRules Walkthrough.fields = true ∧
    (∀ callee, .predicate callee ∈ Schema.parts Walkthrough.validator.schema → host.Silent callee) ∧
    Walkthrough.validator.validate host data [] = ⟨.error fault, tally, events⟩ ∧
    (∃ earlier part v there own,
      (Walkthrough.validator.judge host).Reaches "" (data.entries?.getD []) Walkthrough.validator.schema []
        earlier part v there ∧
      host.Refuses part v there fault tally own ∧ events = earlier ++ own) ∧
    ∃ report, (statusOnly.validate host data []).result = .ok report := by
  intro host data fault tally events statusOnly
  have built : Validator.ofAuthored (.mapping .plain Walkthrough.fields) validatorLogger =
      .ok Walkthrough.validator := rfl
  have silent (callee : Callable) : host.Silent callee := catalogue_silent (by simp) callee
  have ran : Walkthrough.validator.validate host data [] = ⟨.error fault, tally, events⟩ := rfl
  refine ⟨rfl, fun callee _ => silent callee, ran, ?_, ?_⟩
  · exact ((faults_come_from_parts built rfl host (fun callee _ => silent callee) data []).1 fault tally events ran).1
  · have parts : Schema.parts statusOnly.schema = [.enumeration [.text "active", .text "suspended",
        .member "Status" .plain "ACTIVE" (.text "active"), .member "Status" .plain "SUSPENDED" (.text "suspended")]] :=
      rfl
    have built : Validator.ofAuthored (.mapping .plain [("status", Walkthrough.status)]) validatorLogger =
        .ok statusOnly := rfl
    have uncalled : ∀ callee, .predicate callee ∉ Schema.parts statusOnly.schema := by simp [parts]
    refine (faults_come_from_parts built rfl host (fun callee _ => silent callee) data []).2
      uncalled (by simp [data, Value.Comparable, Value.refusal?]) fun others part => ?_
    rw [parts, List.mem_singleton] at part
    cases part
    simp [Value.Comparable, Value.refusal?]

/-- A signalling decimal in a list, met by a literal that is a list of a decimal too, ends a run, though
nothing is called and no cell is missing. -/
theorem signalling_decimal_ends_run :
    let literal := Value.list [.decimal (.finite false 1 0)]
    let authored := Value.mapping .plain [("a", .mapping .plain [(enumKey, .list [literal])])]
    let validator : Validator := ⟨[("a", .rule .enumeration (.tuple [literal]))], validatorLogger⟩
    let data := Value.mapping .plain [("a", .list [.decimal (.nan true false none)])]
    Validator.ofAuthored authored validatorLogger = .ok validator ∧
    Value.haveSoundRules (authored.entries?.getD []) = true ∧
    Schema.parts validator.schema = [.enumeration [literal]] ∧
    literal.Throughout (· ≠ .missing) ∧ data.Throughout (· ≠ .missing) ∧
    validator.validate CommandLine.noCalls data () = ⟨.error .signalled, (), []⟩ := by
  intro literal authored validator data
  refine ⟨rfl, rfl, rfl, ?_, ?_, rfl⟩
  · simp [literal]
  · simp [data]

end FaultOrigins
end RecordSchema
