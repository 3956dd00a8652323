import RecordSchema.Proofs.Actions
import RecordSchema.Proofs.Comparison
import RecordSchema.Proofs.RuleSoundness

/-! Acceptance, told apart from checking. Checking runs calls, stops at the first
failure and warns on its way; what a rule accepts is a matter of the rule and
the value alone. Where calls give the same answer in every state and no
comparison is refused, checking decides acceptance: it returns from every state,
and it returns true exactly for what the rule accepts. -/
namespace RecordSchema

/-- What each type tag describes. A tag that names no type describes nothing. -/
inductive Tag.Describes : Tag → Value → Prop where
  | string {v : Value} (kind : v.kind = .string) : Tag.Describes .string v
  | number {v : Value} (kind : v.kind = .number) : Tag.Describes .number v
  | boolean {v : Value} (kind : v.kind = .boolean) : Tag.Describes .boolean v
  | mapping {v : Value} (kind : v.kind = .object) : Tag.Describes .object v
  | array {v : Value} (kind : v.kind = .array) : Tag.Describes .object v
  | symbol (id : Nat) : Tag.Describes .symbol (.symbol id)
  | bigint {v : Value} (kind : v.kind = .number) (integer : v.isInteger = true) : Tag.Describes .bigint v
  | undefined : Tag.Describes .undefined .undefined
  | null : Tag.Describes .null .null

/-- What a rule accepts, given what calls find true. A nested, unrecognized,
foreign or broken rule accepts no value. -/
inductive Rule.Accepts (passes : Callable → Value → Bool) : Rule → Value → Prop where
  | primitive {tag : Tag} {v : Value} (described : tag.Describes v) : Rule.Accepts passes (.primitive tag) v
  | predicate {callee : Callable} {v : Value} (passed : passes callee v = true) :
      Rule.Accepts passes (.predicate callee) v
  | enumeration {literals : List Value} {literal v : Value} (listed : literal ∈ literals)
      (equal : v.strictEqual literal = .ok true) : Rule.Accepts passes (.enumeration literals) v
  /-- No elements at all are accepted whatever the item rule is. -/
  | noElements {item : Rule} {v : Value} (array : Judge.elements? v = some []) :
      Rule.Accepts passes (.array item) v
  | elements {item : Rule} {v : Value} {elements : List Value} (array : Judge.elements? v = some elements)
      (scalar : item.isScalar = true) (each : ∀ element ∈ elements, Rule.Accepts passes item element) :
      Rule.Accepts passes (.array item) v
  | composite {members : List Rule} {v : Value} (simple : ∀ member ∈ members, member.isSimple = true)
      (each : ∀ member ∈ members, Rule.Accepts passes member v) : Rule.Accepts passes (.composite members) v

/-- When the slot under a key passes a rule. Only two tags have a say in
absence; every other rule needs a value that it accepts. -/
inductive Rule.PassesAt (passes : Callable → Value → Bool) : Rule → Option Value → Prop where
  | absent : Rule.PassesAt passes (.primitive .undefined) none
  | undefined : Rule.PassesAt passes (.primitive .undefined) (some .undefined)
  | null : Rule.PassesAt passes (.primitive .null) (some .null)
  | present {rule : Rule} {v : Value} (asksValue : rule ≠ .primitive .undefined ∧ rule ≠ .primitive .null)
      (accepted : rule.Accepts passes v) : Rule.PassesAt passes rule (some v)

/-- The comparisons that checking a value by a rule makes: with the literals up
to the first equal one, and inside elements and members up to the first that
is not accepted. -/
inductive Rule.Compares (passes : Callable → Value → Bool) : Rule → Value → Value → Value → Prop where
  | literal {earlier later : List Value} {literal v : Value}
      (differ : ∀ other ∈ earlier, v.strictEqual other = .ok false) :
      Rule.Compares passes (.enumeration (earlier ++ literal :: later)) v v literal
  | element {item : Rule} {v element left right : Value} {earlier later : List Value}
      (array : Judge.elements? v = some (earlier ++ element :: later)) (scalar : item.isScalar = true)
      (accepted : ∀ other ∈ earlier, item.Accepts passes other)
      (compared : Rule.Compares passes item element left right) : Rule.Compares passes (.array item) v left right
  | member {earlier later : List Rule} {member : Rule} {v left right : Value}
      (accepted : ∀ other ∈ earlier, other.Accepts passes v) (simple : member.isSimple = true)
      (compared : Rule.Compares passes member v left right) :
      Rule.Compares passes (.composite (earlier ++ member :: later)) v left right

mutual
/-- The rules at any depth of a rule that are not made of other rules. -/
def Rule.parts : Rule → List Rule
  | .array item => item.parts
  | .composite members => Rule.memberParts members
  | .nested fields => Schema.parts fields
  | rule => [rule]
termination_by structural rule => rule

/-- The parts of the members of a composite. -/
def Rule.memberParts : List Rule → List Rule
  | [] => []
  | rule :: rest => rule.parts ++ Rule.memberParts rest
termination_by structural rules => rules

/-- The parts of the rules of fields. -/
def Schema.parts : List (String × Rule) → List Rule
  | [] => []
  | (_, rule) :: rest => rule.parts ++ Schema.parts rest
termination_by structural fields => fields
end

variable {σ : Type}

/-- The answers of a callee are a function of the argument alone: from every
state a call returns something with that truth. -/
def Host.Answers (host : Host σ) (callee : Callable) (passes : Value → Bool) : Prop :=
  ∀ v state, ∃ answer, (host callee v state).result = .ok answer ∧ answer.truth = .ok (passes v)

/-- An action decides a proposition: it returns from every state, and it
returns true exactly if the proposition holds. -/
def Action.Decides (action : Action σ Bool) (p : Prop) : Prop :=
  ∀ state, ∃ b, (action state).result = .ok b ∧ (b = true ↔ p)

namespace Acceptance

variable {p q : Prop} {action : Action σ Bool} {judge : Judge σ} {passes : Callable → Value → Bool}
  {path : String} {tag : Tag} {rule item : Rule} {v : Value} {callee : Callable} {members : List Rule}

/-! ## Deciding -/

theorem decides_congr (same : p ↔ q) (decides : action.Decides p) : action.Decides q := by
  intro state
  obtain ⟨b, returned, holds⟩ := decides state
  exact ⟨b, returned, holds.trans same⟩

theorem decides_pure {b : Bool} (holds : b = true ↔ p) : (pure b : Action σ Bool).Decides p :=
  fun _ => ⟨b, rfl, holds⟩

/-- Telling the logger does not change what is decided. -/
theorem decides_warned {notice : Notice} (decides : action.Decides p) :
    (judge.warn notice >>= fun _ => action).Decides p := by
  intro state
  obtain ⟨b, returned, holds⟩ := decides state
  exact ⟨b, Action.bind_returns.mpr ⟨(), rfl, returned⟩, holds⟩

/-- One check after another decides that both hold. The second one has to
decide only if the first one holds. -/
theorem decides_and {next : Action σ Bool} (first : action.Decides p) (second : p → next.Decides q) :
    (do if ← action then next else pure false : Action σ Bool).Decides (p ∧ q) := by
  intro state
  obtain ⟨b, returned, holds⟩ := first state
  cases b with
  | false => exact ⟨false, Action.bind_returns.mpr ⟨false, returned, rfl⟩, by simp [← holds]⟩
  | true =>
    obtain ⟨b, returned', holds'⟩ := second (holds.mp rfl) (action state).state
    exact ⟨b, Action.bind_returns.mpr ⟨true, returned, returned'⟩, by simp [← holds, holds']⟩

/-! ## The parts of a check -/

/-- The executable table of tags is the table of what they describe. -/
theorem tag_accepts : tag.accepts v = true ↔ tag.Describes v := by
  constructor
  · intro accepted
    cases tag with
    | string => exact .string (by simpa [Tag.accepts] using accepted)
    | number => exact .number (by simpa [Tag.accepts] using accepted)
    | boolean => exact .boolean (by simpa [Tag.accepts] using accepted)
    | object =>
      simp only [Tag.accepts, Bool.or_eq_true, beq_iff_eq] at accepted
      exact accepted.elim .mapping .array
    | symbol =>
      cases v with
      | symbol id => exact .symbol id
      | _ => cases accepted
    | bigint =>
      simp only [Tag.accepts, Bool.and_eq_true, beq_iff_eq] at accepted
      exact .bigint accepted.1 accepted.2
    | undefined =>
      cases v with
      | undefined => exact .undefined
      | member owner base name value => cases base <;> cases accepted
      | _ => cases accepted
    | null =>
      cases v with
      | null => exact .null
      | member owner base name value => cases base <;> cases accepted
      | _ => cases accepted
    | unknown | undetermined => cases accepted
  · intro described
    cases described with
    | string kind | number kind | boolean kind | mapping kind | array kind => simp [Tag.accepts, kind]
    | bigint kind integer => simp [Tag.accepts, kind, integer]
    | symbol | undefined | null => rfl

theorem holds_decides (answers : judge.host.Answers callee (passes callee)) :
    (judge.holds callee v).Decides (passes callee v = true) := by
  intro state
  obtain ⟨answer, returned, truth⟩ := answers v state
  refine ⟨passes callee v, ?_, Iff.rfl⟩
  simp only [Judge.holds, Action.bind_returns]
  exact ⟨(), rfl, answer, returned, by rw [truth]; rfl⟩

/-- Trying elements in order decides that all of them pass. Each one has to be
decided only if those before it pass. -/
theorem all_pass_decides {check : Value → Action σ Bool} {accepts : Value → Prop} {elements : List Value}
    (each : ∀ earlier element later, elements = earlier ++ element :: later →
      (∀ other ∈ earlier, accepts other) → (check element).Decides (accepts element)) :
    (Judge.allPass check elements).Decides (∀ element ∈ elements, accepts element) := by
  induction elements with
  | nil => exact decides_pure (by simp)
  | cons element rest ih =>
    have second (first : accepts element) :
        (Judge.allPass check rest).Decides (∀ element ∈ rest, accepts element) := by
      refine ih ?_
      rintro earlier next later rfl passed
      exact each (element :: earlier) next later rfl (List.forall_mem_cons.mpr ⟨first, passed⟩)
    exact decides_congr List.forall_mem_cons.symm
      (decides_and (each [] element rest rfl (by simp)) second)

/-- The same of the members of a composite, which must be simple besides. -/
theorem check_members_decides
    (each : ∀ earlier member later, members = earlier ++ member :: later →
      (∀ other ∈ earlier, other.Accepts passes v) → member.isSimple = true →
        (judge.checkSimple path member v).Decides (member.Accepts passes v)) :
    (judge.checkMembers path members v).Decides
      (∀ member ∈ members, member.isSimple = true ∧ member.Accepts passes v) := by
  induction members with
  | nil => exact decides_pure (by simp)
  | cons member rest ih =>
    rw [Judge.checkMembers]
    split
    next simple =>
      have second (first : member.Accepts passes v) : (judge.checkMembers path rest v).Decides
          (∀ member ∈ rest, member.isSimple = true ∧ member.Accepts passes v) := by
        refine ih ?_
        rintro earlier next later rfl passed
        exact each (member :: earlier) next later rfl (List.forall_mem_cons.mpr ⟨first, passed⟩)
      refine decides_congr ?_ (decides_and (each [] member rest rfl (by simp) simple) second)
      simp [simple]
    next complex => exact decides_warned (decides_pure (by simp [complex]))

/-! ## Checking decides acceptance -/

theorem member_parts {member part : Rule} (among : member ∈ members) (inside : part ∈ member.parts) :
    part ∈ (Rule.composite members).parts := by
  rw [Rule.parts]
  induction members with
  | nil => cases among
  | cons first rest ih =>
    rw [Rule.memberParts, List.mem_append]
    rcases List.mem_cons.mp among with rfl | among
    · exact .inl inside
    · exact .inr (ih among)

theorem check_scalar_decides (scalar : rule.isScalar = true) (sound : rule.isSound = true)
    (answers : ∀ callee, .predicate callee ∈ rule.parts → judge.host.Answers callee (passes callee))
    (whole : ∀ left right, rule.Compares passes v left right →
      left.Comparable ∧ right.Comparable) :
    (judge.checkSimple path rule v).Decides (rule.Accepts passes v) := by
  cases rule with
  | primitive tag => exact decides_pure (tag_accepts.trans ⟨.primitive, fun | .primitive described => described⟩)
  | predicate callee =>
    refine decides_congr ⟨.predicate, fun | .predicate passed => passed⟩ (holds_decides (answers callee ?_))
    exact List.mem_singleton_self _
  | enumeration literals =>
    have determined : ∀ earlier literal later, literals = earlier ++ literal :: later →
        (∀ other ∈ earlier, v.strictEqual other = .ok false) → ∃ b, v.strictEqual literal = .ok b := by
      rintro earlier literal later rfl differ
      obtain ⟨left, right⟩ := whole v literal (.literal differ)
      exact Comparison.strict_equal_determined left right
    obtain ⟨b, among, found⟩ := Comparison.among_literals determined
    rw [Judge.checkSimple, among]
    refine decides_pure (found.trans ⟨?_, ?_⟩)
    · rintro ⟨literal, listed, equal⟩
      exact .enumeration listed equal
    · rintro (_ | _ | ⟨listed, equal⟩)
      exact ⟨_, listed, equal⟩
  | broken => cases sound
  | _ => cases scalar

theorem check_simple_decides (simple : rule.isSimple = true) (sound : rule.isSound = true)
    (answers : ∀ callee, .predicate callee ∈ rule.parts → judge.host.Answers callee (passes callee))
    (whole : ∀ left right, rule.Compares passes v left right →
      left.Comparable ∧ right.Comparable) :
    (judge.checkSimple path rule v).Decides (rule.Accepts passes v) := by
  cases rule with
  | array item =>
    rw [Judge.checkSimple]
    split
    next plain =>
      refine decides_pure ⟨by simp, ?_⟩
      rintro (_ | _ | _ | array | ⟨array, _, _⟩) <;> simp [plain] at array
    next elements array =>
      split
      next scalar =>
        have each : ∀ earlier element later, elements = earlier ++ element :: later →
            (∀ other ∈ earlier, item.Accepts passes other) →
              (judge.checkSimple path item element).Decides (item.Accepts passes element) := by
          rintro earlier element later rfl accepted
          refine check_scalar_decides scalar sound answers
            fun left right compared => ?_
          exact whole left right (.element array scalar accepted compared)
        refine decides_congr ⟨.elements array scalar, ?_⟩ (all_pass_decides each)
        rintro (_ | _ | _ | empty | ⟨array', _, each⟩)
        · rw [array] at empty
          cases empty
          simp
        · rw [array] at array'
          cases array'
          exact each
      next complex =>
        split
        next empty =>
          rw [List.isEmpty_iff] at empty
          subst empty
          exact decides_pure ⟨fun _ => .noElements array, fun _ => rfl⟩
        next filled =>
          refine decides_warned (decides_pure ⟨by simp, ?_⟩)
          rintro (_ | _ | _ | empty | ⟨_, scalar, _⟩)
          · rw [array] at empty
            cases empty
            exact absurd rfl filled
          · exact absurd scalar complex
  | composite | nested | unrecognized => cases simple
  | foreign | broken => cases sound
  | _ => exact check_scalar_decides rfl sound answers whole

/-- Checking a present value by a sound rule that is not nested decides whether
the rule accepts the value. -/
theorem check_present_decides (plain : ∀ inner, rule ≠ .nested inner) (sound : rule.isSound = true)
    (answers : ∀ callee, .predicate callee ∈ rule.parts → judge.host.Answers callee (passes callee))
    (whole : ∀ left right, rule.Compares passes v left right →
      left.Comparable ∧ right.Comparable) :
    (judge.checkPresent path rule v).Decides (rule.Accepts passes v) := by
  cases rule with
  | composite members =>
    have each : ∀ earlier member later, members = earlier ++ member :: later →
        (∀ other ∈ earlier, other.Accepts passes v) → member.isSimple = true →
          (judge.checkSimple path member v).Decides (member.Accepts passes v) := by
      rintro earlier member later rfl accepted simple
      refine check_simple_decides simple (RuleSoundness.member_sound sound (by simp))
        (fun callee part => answers callee (member_parts (by simp) part)) fun left right compared => ?_
      exact whole left right (.member accepted simple compared)
    refine decides_congr ⟨fun all => ?_, ?_⟩ (check_members_decides each)
    · exact .composite (fun member among => (all member among).1) fun member among => (all member among).2
    · rintro (_ | _ | _ | _ | _ | ⟨simple, each⟩)
      exact fun member among => ⟨simple member among, each member among⟩
  | unrecognized raw => exact decides_warned (decides_pure ⟨by simp, fun accepted => by cases accepted⟩)
  | nested inner => exact absurd rfl (plain inner)
  | foreign | broken => cases sound
  | _ => exact check_simple_decides rfl sound answers whole

/-- For a rule that neither tag of absence is, a slot passes with a value that
the rule accepts. -/
theorem passes_at_present (asksValue : rule ≠ .primitive .undefined ∧ rule ≠ .primitive .null) :
    rule.PassesAt passes (some v) ↔ rule.Accepts passes v := by
  refine ⟨?_, .present asksValue⟩
  rintro (_ | _ | _ | ⟨_, accepted⟩)
  · exact absurd rfl asksValue.1
  · exact absurd rfl asksValue.2
  · exact accepted

theorem judge_leaf_needs_value {slot : Option Value}
    (asksValue : rule ≠ .primitive .undefined ∧ rule ≠ .primitive .null) (sound : rule.isSound = true) :
    judge.judgeLeaf path slot rule = slot.elim (pure false) (judge.checkPresent path rule) := by
  cases rule with
  | primitive tag =>
    cases tag with
    | undefined => exact absurd rfl asksValue.1
    | null => exact absurd rfl asksValue.2
    | undetermined => cases sound
    | _ => cases slot <;> rfl
  | _ => cases slot <;> rfl

/-- Judging a slot by a sound rule that is not nested decides whether the slot
passes. -/
theorem judge_leaf_decides {slot : Option Value} (plain : ∀ inner, rule ≠ .nested inner)
    (sound : rule.isSound = true)
    (answers : ∀ callee, .predicate callee ∈ rule.parts → judge.host.Answers callee (passes callee))
    (whole : ∀ v, slot = some v → ∀ left right, rule.Compares passes v left right →
      left.Comparable ∧ right.Comparable) :
    (judge.judgeLeaf path slot rule).Decides (rule.PassesAt passes slot) := by
  by_cases undefined : rule = .primitive .undefined
  · subst undefined
    refine decides_pure ⟨fun absent => ?_, ?_⟩
    · match slot with
      | none => exact .absent
      | some v =>
        cases tag_accepts.mp (show Tag.undefined.accepts v = true from absent)
        exact .undefined
    · rintro (_ | _ | _ | ⟨asksValue, _⟩)
      · rfl
      · rfl
      · exact absurd rfl asksValue.1
  by_cases null : rule = .primitive .null
  · subst null
    refine decides_pure ⟨fun empty => ?_, ?_⟩
    · match slot with
      | none => cases empty
      | some v =>
        cases tag_accepts.mp (show Tag.null.accepts v = true by simpa [Tag.accepts] using empty)
        exact .null
    · rintro (_ | _ | _ | ⟨asksValue, _⟩)
      · rfl
      · exact absurd rfl asksValue.2
  rw [judge_leaf_needs_value ⟨undefined, null⟩ sound]
  cases slot with
  | none =>
    refine decides_pure ⟨by simp, ?_⟩
    rintro (_ | _)
    exact absurd rfl undefined
  | some v =>
    exact decides_congr (passes_at_present ⟨undefined, null⟩).symm
      (check_present_decides plain sound answers (whole v rfl))

/-! ## Where no comparison can be refused -/

theorem elements_comparable {elements : List Value} (array : Judge.elements? v = some elements)
    (comparable : v.Comparable) : ∀ element ∈ elements, element.Comparable := by
  cases v with
  | list | tuple | named =>
    cases array
    exact fun element among => MatchingParts.throughout_part comparable among
  | _ => cases array

/-- A value and literals that can be compared meet no others in comparisons. -/
theorem compares_comparable {left right : Value} (compared : rule.Compares passes v left right)
    (listed : ∀ literals, .enumeration literals ∈ rule.parts → ∀ literal ∈ literals, literal.Comparable)
    (comparable : v.Comparable) : left.Comparable ∧ right.Comparable := by
  induction compared with
  | literal differ => exact ⟨comparable, listed _ List.mem_cons_self _ (by simp)⟩
  | element array scalar accepted compared ih =>
    exact ih listed (elements_comparable array comparable _ (by simp))
  | member accepted simple compared ih =>
    exact ih (fun literals inside => listed literals (member_parts (by simp) inside)) comparable

end Acceptance
end RecordSchema
