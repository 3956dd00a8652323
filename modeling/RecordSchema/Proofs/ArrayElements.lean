import RecordSchema.Proofs.CompositeMembers

/-! The elements of an array. An array rule with a scalar item rule tries the elements in
order and comes to an end with the first that does not pass, so a predicate is called for
the elements up to that one, once for each, and an array is checked like its first part
and then its second. Which type of array holds the elements is not looked at. Any other
item rule is passed by the empty array only, and what is no array passes no array rule. -/
namespace RecordSchema

variable {σ : Type}

/-- The events that checking a value by a scalar rule leaves: the call of a predicate with
what the callee leaves itself, and nothing for a rule of another kind. -/
def Judge.scalarEvents (judge : Judge σ) (v : Value) (state : σ) : Rule → List Event
  | .predicate callee => .called callee v :: (judge.host callee v state).events
  | _ => []

namespace ArrayElements

variable {judge : Judge σ} {path : String} {item : Rule} {elements : List Value} {v : Value} {state : σ}

/-! ## One element -/

theorem check_scalar_events (scalar : item.isScalar = true) (path : String) (v : Value) (state : σ) :
    (judge.checkSimple path item v state).events = judge.scalarEvents v state item := by
  cases item with
  | primitive tag => rfl
  | predicate callee =>
    obtain ⟨result, after, ran⟩ := judge.holds_run callee v state
    exact congrArg Outcome.events ran
  | enumeration literals =>
    rw [Judge.checkSimple]
    cases v.isAmong literals <;> rfl
  | broken kind fault => rfl
  | array | composite | nested | unrecognized | foreign => cases scalar

/-! ## All elements -/

/-- An array rule sees the elements of a value and nothing else of it. -/
theorem check_array_elements (judge : Judge σ) (path : String) (item : Rule) {v w : Value}
    (same : Judge.elements? v = Judge.elements? w) :
    judge.checkSimple path (.array item) v = judge.checkSimple path (.array item) w := by
  rw [Judge.checkSimple, Judge.checkSimple, same]

theorem check_elements (scalar : item.isScalar = true) (array : Judge.elements? v = some elements) :
    judge.checkSimple path (.array item) v = Action.every (judge.checkSimple path item) elements := by
  rw [Judge.checkSimple, array]
  simp only [scalar, if_true]
  exact CheckSequences.all_pass_every (judge.checkSimple path item) elements

theorem check_plain (plain : v.kind ≠ .array) (state : σ) :
    judge.checkSimple path (.array item) v state = ⟨.ok false, state, []⟩ := by
  have none : Judge.elements? v = none := by
    cases v with
    | list | tuple | named => exact absurd rfl plain
    | _ => rfl
  rw [Judge.checkSimple, none]
  rfl

/-- An item rule that is not scalar is not applied to any element. -/
theorem check_unsupported (complex : item.isScalar = false) (array : Judge.elements? v = some elements) (state : σ) :
    judge.checkSimple path (.array item) v state = ⟨.ok elements.isEmpty, state,
      if elements.isEmpty then [] else [.logged judge.logger (.unsupportedItem path item.typeName)]⟩ := by
  rw [Judge.checkSimple, array]
  cases elements with
  | nil => simp [complex]
  | cons element rest =>
    simp only [complex, Bool.false_eq_true, if_false, List.isEmpty_cons]
    rfl

/-! ## Where the rule stands -/

theorem array_at_field (judge : Judge σ) (path : String) (item : Rule) (v : Value) :
    judge.judgeField path (some v) (.array item) = Verdict.leaf <$> judge.checkSimple path (.array item) v := rfl

theorem array_among_members (judge : Judge σ) (path : String) (item : Rule) (v : Value) (before after : List Rule) :
    judge.judgeField path (some v) (.composite (before ++ .array item :: after)) =
      Verdict.leaf <$> (judge.checkMembers path before v).andThen
        ((judge.checkSimple path (.array item) v).andThen (judge.checkMembers path after v)) := by
  have member : judge.checkMember path v (.array item) = judge.checkSimple path (.array item) v := rfl
  simp only [CompositeMembers.composite_judged, CheckSequences.check_members_every, CheckSequences.every_append,
    Action.every, member]

/-- An array rule quantifies over the elements in order and lazily, whatever the path and
the state of the predicates. With a scalar item rule, some elements and then others are
checked as those and, only if they pass, the others, and what is checked is each element
up to the first that does not pass, because it fails or because its check does not
return; a predicate is called for each of these once, and nothing else is left of a
check. The three types of arrays make no difference, and a value that is no array fails
at once. With any other item rule the empty array passes and every other one fails with
one warning. All of this is so for an array rule under a key, and for one among the
members of a composite, when the members before it have passed. -/
theorem elements_tried_in_order (judge : Judge σ) (path : String) (item : Rule) :
    (item.isScalar = true →
      (∀ xs ys, judge.checkSimple path (.array item) (.list (xs ++ ys)) =
        (judge.checkSimple path (.array item) (.list xs)).andThen (judge.checkSimple path (.array item) (.list ys))) ∧
      ∀ xs state, ∃ tried,
        Action.Tried (judge.checkSimple path item) xs state tried
          (judge.checkSimple path (.array item) (.list xs) state).result
          (judge.checkSimple path (.array item) (.list xs) state).state ∧
        (judge.checkSimple path (.array item) (.list xs) state).events =
          tried.flatMap fun (element, before) => judge.scalarEvents element before item) ∧
    (∀ xs, judge.checkSimple path (.array item) (.tuple xs) = judge.checkSimple path (.array item) (.list xs)) ∧
    (∀ type xs, judge.checkSimple path (.array item) (.named type xs) =
      judge.checkSimple path (.array item) (.list xs)) ∧
    (∀ v, v.kind ≠ .array → ∀ state, judge.checkSimple path (.array item) v state = ⟨.ok false, state, []⟩) ∧
    (item.isScalar = false → ∀ xs state, judge.checkSimple path (.array item) (.list xs) state =
      ⟨.ok xs.isEmpty, state,
        if xs.isEmpty then [] else [.logged judge.logger (.unsupportedItem path item.typeName)]⟩) ∧
    (∀ v, judge.judgeField path (some v) (.array item) =
      Verdict.leaf <$> judge.checkSimple path (.array item) v) ∧
    (∀ v before after, judge.judgeField path (some v) (.composite (before ++ .array item :: after)) =
      Verdict.leaf <$> (judge.checkMembers path before v).andThen
        ((judge.checkSimple path (.array item) v).andThen (judge.checkMembers path after v))) := by
  have sequence (scalar : item.isScalar = true) (xs : List Value) : judge.checkSimple path (.array item) (.list xs) =
      Action.every (judge.checkSimple path item) xs := check_elements scalar rfl
  refine ⟨fun scalar => ⟨?_, ?_⟩, ?_, ?_, ?_, ?_, ?_, ?_⟩
  · intro xs ys
    simp only [sequence scalar, CheckSequences.every_append]
  · intro xs state
    obtain ⟨tried, run, events⟩ := CheckSequences.every_tried (judge.checkSimple path item) xs state
    rw [sequence scalar]
    refine ⟨tried, run, ?_⟩
    rw [events]
    simp only [check_scalar_events scalar]
  · intro xs
    exact check_array_elements judge path item rfl
  · intro type xs
    exact check_array_elements judge path item rfl
  · intro v plain state
    exact check_plain plain state
  · intro complex xs state
    exact check_unsupported complex rfl state
  · intro v
    exact array_at_field judge path item v
  · intro v before after
    exact array_among_members judge path item v before after

/-- Of three balances the first two are tried, and the second one fails. A tuple of them
ends as the list does, no balances at all pass without a call, a mapping of them fails,
and an item rule that is a schema is warned of. -/
theorem walkthrough_balances_tried :
    let judge : Judge Tally := ⟨Walkthrough.host, validatorLogger⟩
    let positive := Rule.predicate Walkthrough.isPositive
    let check := judge.checkSimple "balances" (.array positive)
    let balances := [Value.int 1, .int (-2), .int 3]
    (check (.list balances) []).result = .ok false ∧
    check (.list balances) [] = ((check (.list [.int 1])).andThen (check (.list [.int (-2), .int 3]))) [] ∧
    (∃ tried, Action.Tried (judge.checkSimple "balances" positive) balances [] tried (.ok false) [(0, 2)] ∧
      [.called Walkthrough.isPositive (.int 1), .called Walkthrough.isPositive (.int (-2))] =
        tried.flatMap fun (balance, before) => judge.scalarEvents balance before positive) ∧
    check (.tuple balances) = check (.list balances) ∧
    check (.list []) [] = ⟨.ok true, [], []⟩ ∧
    check (.mapping .plain [("first", .int 1)]) [] = ⟨.ok false, [], []⟩ ∧
    judge.checkSimple "balances" (.array (.nested [])) (.list balances) [] =
      ⟨.ok false, [], [.logged validatorLogger (.unsupportedItem "balances" "NestedRule")]⟩ := by
  intro judge positive check balances
  obtain ⟨scalar, tuple, -, plain, -⟩ := elements_tried_in_order judge "balances" positive
  obtain ⟨append, tries⟩ := scalar rfl
  obtain ⟨-, -, -, -, unsupported, -⟩ := elements_tried_in_order judge "balances" (.nested [])
  have together := congrFun (append [.int 1] [.int (-2), .int 3]) []
  refine ⟨by rfl, together, tries balances [], tuple balances, by rfl, plain _ (by decide) [], ?_⟩
  exact unsupported rfl balances []

end ArrayElements
end RecordSchema
