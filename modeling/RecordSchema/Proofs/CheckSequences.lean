import RecordSchema.Proofs.Acceptance

/-! Checks one after another. The elements of an array and the members of a composite are
gone through in the same way: in order, each from the state that the one before it left,
and up to the first that does not pass. What this comes to is settled here once, for
checks of whatever things: how a sequence of checks falls into two, what of it is never
reached, which checks are made and what they leave, and that checks which decide
something decide it of all things together, in any order. -/
namespace RecordSchema

variable {σ α : Type}

namespace Action

/-- One check and, if it passes, another one. -/
def andThen (first next : Action σ Bool) : Action σ Bool := do if ← first then next else pure false

/-- Checks of things in order, up to the first that does not pass. -/
def every (check : α → Action σ Bool) : List α → Action σ Bool
  | [] => pure true
  | x :: xs => (check x).andThen (every check xs)

/-- Trying things in order from a state: those that are checked, each with the state that
its check comes in, and the result and the state in the end. Behind a check that does
not pass, because it fails or because it does not return, nothing is tried. -/
inductive Tried (check : α → Action σ Bool) : List α → σ → List (α × σ) → Except Fault Bool → σ → Prop where
  | done (state : σ) : Tried check [] state [] (.ok true) state
  | pass {x : α} {xs : List α} {state after : σ} {tried : List (α × σ)} {result : Except Fault Bool}
      (passed : (check x state).result = .ok true) (rest : Tried check xs (check x state).state tried result after) :
      Tried check (x :: xs) state ((x, state) :: tried) result after
  | stop {x : α} (xs : List α) {state : σ} (stopped : (check x state).result ≠ .ok true) :
      Tried check (x :: xs) state [(x, state)] (check x state).result (check x state).state

end Action

/-- Judges a present value by one member of a composite. -/
def Judge.checkMember (judge : Judge σ) (path : String) (v : Value) (member : Rule) : Action σ Bool :=
  if member.isSimple then judge.checkSimple path member v
  else do
    judge.warn (.unsupportedMember path member.typeName)
    pure false

namespace CheckSequences

variable {check : α → Action σ Bool} {first next last : Action σ Bool} {x : α} {xs ys : List α} {state : σ}

/-! ## Two checks -/

theorem and_then_passed (passed : (first state).result = .ok true) :
    (first.andThen next) state = ⟨(next (first state).state).result, (next (first state).state).state,
      (first state).events ++ (next (first state).state).events⟩ := by
  have ran : first state = ⟨.ok true, (first state).state, (first state).events⟩ := by rw [← passed]
  exact Action.bind_of_ok ran

theorem and_then_stopped (stopped : (first state).result ≠ .ok true) : (first.andThen next) state = first state := by
  rcases ran : first state with ⟨fault | passed, middle, events⟩
  · exact Action.bind_of_error ran
  · cases passed with
    | true =>
      rw [ran] at stopped
      exact absurd rfl stopped
    | false =>
      refine (Action.bind_of_ok ran).trans ?_
      simp

theorem and_then_assoc : (first.andThen next).andThen last = first.andThen (next.andThen last) := by
  simp only [Action.andThen, bind_assoc]
  congr 1
  funext passed
  cases passed <;> simp

theorem pass_and_then : (pure true : Action σ Bool).andThen next = next := by simp [Action.andThen]

theorem and_then_pass : first.andThen (pure true) = first := by
  have same (passed : Bool) : (if passed then pure true else pure false : Action σ Bool) = pure passed := by
    cases passed <;> rfl
  simp [Action.andThen, same]

/-! ## Many checks -/

theorem every_single : Action.every check [x] = check x := and_then_pass

/-- Checking things and then others is checking them all. -/
theorem every_append : Action.every check (xs ++ ys) = (Action.every check xs).andThen (Action.every check ys) := by
  induction xs with
  | nil => exact pass_and_then.symm
  | cons x xs ih => rw [List.cons_append, Action.every, Action.every, ih, and_then_assoc]

/-- What comes after the first check that does not pass is not looked at. -/
theorem every_stopped {rest : List α} (passed : (Action.every check xs state).result = .ok true)
    (stopped : (check x (Action.every check xs state).state).result ≠ .ok true) :
    Action.every check (xs ++ x :: rest) state = Action.every check (xs ++ [x]) state := by
  have ended (rest : List α) : Action.every check (x :: rest) (Action.every check xs state).state =
      check x (Action.every check xs state).state := and_then_stopped stopped
  rw [every_append, every_append, and_then_passed passed, and_then_passed passed, ended, ended]

/-- A sequence of checks makes those that trying the things in order makes, and leaves
their events. -/
theorem every_tried (check : α → Action σ Bool) (xs : List α) (state : σ) :
    ∃ tried, Action.Tried check xs state tried (Action.every check xs state).result (Action.every check xs state).state ∧
      (Action.every check xs state).events = tried.flatMap fun (x, before) => (check x before).events := by
  induction xs generalizing state with
  | nil => exact ⟨[], .done state, rfl⟩
  | cons x xs ih =>
    rw [Action.every]
    by_cases passed : (check x state).result = .ok true
    · obtain ⟨tried, rest, events⟩ := ih (check x state).state
      rw [and_then_passed passed]
      refine ⟨(x, state) :: tried, .pass passed rest, ?_⟩
      rw [List.flatMap_cons, events]
    · rw [and_then_stopped passed]
      exact ⟨[(x, state)], .stop xs passed, by simp⟩

/-- Checks that decide something of each thing decide it of all of them. -/
theorem every_decides {p : α → Prop} (each : ∀ x ∈ xs, (check x).Decides (p x)) :
    (Action.every check xs).Decides (∀ x ∈ xs, p x) := by
  induction xs with
  | nil => exact Acceptance.decides_pure (by simp)
  | cons x xs ih =>
    obtain ⟨first, others⟩ := List.forall_mem_cons.mp each
    exact Acceptance.decides_congr List.forall_mem_cons.symm (Acceptance.decides_and first fun _ => ih others)

/-! ## Elements and members -/

theorem all_pass_every (check : Value → Action σ Bool) (elements : List Value) :
    Judge.allPass check elements = Action.every check elements := by
  induction elements with
  | nil => rfl
  | cons element rest ih =>
    rw [Judge.allPass, ih]
    rfl

theorem check_members_every (judge : Judge σ) (path : String) (members : List Rule) (v : Value) :
    judge.checkMembers path members v = Action.every (judge.checkMember path v) members := by
  induction members with
  | nil => rfl
  | cons member rest ih =>
    rw [Judge.checkMembers, Action.every, Judge.checkMember]
    split
    · rw [ih]
      rfl
    · simp [Action.andThen]

end CheckSequences
end RecordSchema
