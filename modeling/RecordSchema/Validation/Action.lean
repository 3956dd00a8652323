import RecordSchema.Report

/-! Actions: steps of a validation. An action sees and changes the state of the predicates, leaves events in
order, and ends with a result or a fault. Events and state survive a fault. -/
namespace RecordSchema

/-- The severity of a log record. -/
inductive Level where
  | debug
  | info
  | warning
  | error
  deriving DecidableEq, Repr

namespace Level

/-- The name of a level. -/
def name : Level → String
  | .debug => "DEBUG"
  | .info => "INFO"
  | .warning => "WARNING"
  | .error => "ERROR"

/-- The place of a level from the least severe one on. -/
def rank : Level → Nat
  | .debug => 0
  | .info => 1
  | .warning => 2
  | .error => 3

/-- The levels by name. -/
def named : List (String × Level) :=
  [("DEBUG", .debug), ("INFO", .info), ("WARNING", .warning), ("ERROR", .error)]

/-- Whether a record of a level passes a threshold. -/
def passes (level threshold : Level) : Bool := threshold.rank ≤ level.rank

end Level

/-- What a log record is about. -/
inductive Notice where
  /-- A nested record was expected at a path and something else was there. -/
  | notARecord (path : String) (found : String)
  /-- The rule at a path was not recognized when the schema was read. -/
  | unrecognizedRule (path : String) (raw : Value)
  /-- The item rule of the array rule at a path is not of a kind that items can have. -/
  | unsupportedItem (path : String) (kind : String)
  /-- A member of the composite rule at a path is not of a kind that members can have. -/
  | unsupportedMember (path : String) (kind : String)
  /-- The rule at a path is not of a kind that can judge a value. -/
  | unsupportedRule (path : String) (kind : String)
  /-- A record was judged. -/
  | judged (report : Report)
  /-- The rows of a table were judged. -/
  | rowsJudged (rows columns : Nat)

namespace Notice

/-- The severity of a notice: trouble with a field is a warning. -/
def level : Notice → Level
  | .judged _ | .rowsJudged _ _ => .debug
  | _ => .warning

/-- The text of a notice. -/
def message : Notice → String
  | .notARecord path found =>
    "Unhandled validation case for key: " ++ path ++ " (expected a mapping, got " ++ found ++ ")"
  | .unrecognizedRule path raw => "Unhandled validation case for key: " ++ path ++ " (rule " ++ raw.display ++ ")"
  | .unsupportedItem path kind => "Unsupported item rule " ++ kind ++ " at " ++ path
  | .unsupportedMember path kind => "Unsupported composite member " ++ kind ++ " at " ++ path
  | .unsupportedRule path kind => "Unsupported rule " ++ kind ++ " at " ++ path
  | .judged report => "validation result: " ++ report.toValue.display
  | .rowsJudged rows columns => s!"validated {rows} rows against {columns} columns"

/-- The path of the field that a warning is about. -/
def path? : Notice → Option String
  | .notARecord path _ | .unrecognizedRule path _ | .unsupportedItem path _ | .unsupportedMember path _
  | .unsupportedRule path _ => some path
  | .judged _ | .rowsJudged _ _ => none

end Notice

/-- What an action leaves behind besides its result. -/
inductive Event where
  | called (callee : Callable) (argument : Value)
  | logged (logger : String) (notice : Notice)

/-- The end of an action. -/
structure Outcome (σ α : Type) where
  result : Except Fault α
  state : σ
  events : List Event

/-- An action on a state of the predicates. -/
def Action (σ α : Type) := σ → Outcome σ α

namespace Action

variable {σ α β : Type}

/-- The action that does nothing and has a result. -/
protected def pure (result : α) : Action σ α := fun state => ⟨.ok result, state, []⟩

/-- One action after another. A fault of the first one is the fault of both. -/
protected def bind (first : Action σ α) (next : α → Action σ β) : Action σ β := fun state =>
  match first state with
  | ⟨.error fault, after, events⟩ => ⟨.error fault, after, events⟩
  | ⟨.ok result, after, events⟩ =>
    let second := next result after
    ⟨second.result, second.state, events ++ second.events⟩

/-- An action with its result changed by a function. -/
protected def map (f : α → β) (action : Action σ α) : Action σ β := fun state =>
  let outcome := action state
  ⟨outcome.result.map f, outcome.state, outcome.events⟩

instance : Monad (Action σ) where
  pure := Action.pure
  bind := Action.bind
  map := Action.map

/-- The action that fails. -/
def fail (fault : Fault) : Action σ α := fun state => ⟨.error fault, state, []⟩

/-- The action that leaves an event. -/
def emit (event : Event) : Action σ Unit := fun state => ⟨.ok (), state, [event]⟩

/-- The action that logs a notice. -/
def log (logger : String) (notice : Notice) : Action σ Unit := emit (.logged logger notice)

/-- The action with a result that is already decided. -/
def ofExcept : Except Fault α → Action σ α
  | .ok result => pure result
  | .error fault => fail fault

end Action

/-- What calls do: the meaning of every callee. -/
abbrev Host (σ : Type) := Callable → Value → Action σ Value

end RecordSchema
