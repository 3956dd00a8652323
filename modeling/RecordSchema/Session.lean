import RecordSchema.Report.Paths
import RecordSchema.Session.Rules
import RecordSchema.Validation

/-! Sessions: steps that name values and validators, change the values in place, and put the validators to
work. A validator does not follow later changes of the schema it was built from, except inside the parts that its
rule objects keep as they are. -/
namespace RecordSchema.Session

/-- What a name stands for. -/
inductive Binding where
  | value (cell : Cell)
  | validator (objects : List (String × Cell)) (logger : String)

/-- What the names stand for, and the next label that is free. -/
structure Workspace where
  bindings : List (String × Binding)
  next : Nat

/-- Why a step is refused. -/
inductive Refusal where
  | unboundName
  | place (error : PlaceError)
  /-- What the name stands for cannot be used in this way. -/
  | unfit
  /-- The rules of a validator cannot be changed; the part that was to be is named. -/
  | frozenPart (name : String)
  /-- The schema of a validator cannot be changed. -/
  | frozenSchema
  | fault (fault : Fault)
  deriving DecidableEq, Repr

/-- Where the data of a step come from. -/
inductive Source where
  | given (v : Value)
  | named (name : String)

/-- A step that judges nothing. -/
inductive Command where
  | define (name : String) (v : Value)
  | show (name : String)
  /-- Builds a validator from the schema that a name stands for. -/
  | build (name schema logger : String)
  /-- Builds a validator from the schema of another. -/
  | rebuild (name validator logger : String)
  | assign (name : String) (turns : List Turn) (v : Value)
  | append (name : String) (turns : List Turn) (v : Value)
  | remove (name : String) (turns : List Turn)
  | summarize (name separator : String)
  | row (name : String) (paths : List String) (separator : String)
  | same (left right : String)
  | display (name : String)
  | dump (name : String)
  | columns (name separator : String)
  | assignField (name : String)
  | assignPart (name key part : String)
  | replaceSchema (name : String)

/-- A step. -/
inductive Step where
  | command (command : Command)
  /-- Judges a record and names the report. -/
  | validate (validator : String) (source : Source) (name : String)
  /-- Judges the values that a walk meets and names the list of reports. -/
  | validateMany (validator : String) (source : Source) (name : String)

/-- What a step answers. -/
inductive Answer where
  | done
  | value (v : Value)
  | report (report : Report)
  | reports (reports : List Report)
  | summary (report : Report) (separator : String)
  | outcomes (outcomes : List Bool)
  | truth (b : Bool)
  | text (s : String)
  | texts (texts : List String)
  | objects (objects : List (String × Value))

namespace Binding

/-- The value that a name stands for. A validator is no record and holds none. -/
def asValue : Binding → Value
  | .value cell => cell.value
  | .validator _ _ => .undefined

/-- The validator that a name stands for, as it is now. -/
def asValidator : Binding → Except Refusal Validator
  | .value _ => .error .unfit
  | .validator objects logger => .ok ⟨Cell.entryValues objects, logger⟩

/-- The cell that a name stands for, which has places. -/
def asCell : Binding → Except Refusal Cell
  | .value cell => .ok cell
  | .validator _ _ => .error (.place .unsupported)

/-- The binding after a change. -/
def apply (change : Cell.Change) : Binding → Binding
  | .value cell => .value (Cell.replace change.label change.new cell)
  | .validator objects logger => .validator (Cell.replaceEntries change.label change.new objects) logger

/-- Whether two equal values without changeable parts are one object: there is one of each constant, of each
small integer, of each text with at most one character of eight bits, and of each list of at most one octet. -/
def isSameAtom : Value → Value → Bool
  | .null, .null | .undefined, .undefined => true
  | .bool a, .bool b => a == b
  | .int m, .int n => m == n && -5 ≤ m && m ≤ 256
  | .text s, .text t => s == t && (match s.toList with | [] => true | [c] => c.toNat < 256 | _ => false)
  | .octets a, .octets b => a == b && a.length ≤ 1
  | v, w => v.sameObject w

/-- Whether two names of different bindings stand for one object. -/
def isSame : Binding → Binding → Bool
  | .value (.list l _), .value (.list m _) => l == m
  | .value (.mapping l _ _), .value (.mapping m _ _) => l == m
  | .value (.tuple []), .value (.tuple []) => true
  | .value (.atom v), .value (.atom w) => isSameAtom v w
  | _, _ => false

end Binding

namespace Workspace

/-- Nothing is named. -/
def empty : Workspace := ⟨[], 0⟩

/-- What a name stands for. -/
def find (workspace : Workspace) (name : String) : Except Refusal Binding :=
  match workspace.bindings.lookup name with
  | some binding => .ok binding
  | none => .error .unboundName

/-- Lets a name stand for something. -/
def bind (workspace : Workspace) (name : String) (binding : Binding) : Workspace :=
  { workspace with bindings := Entries.put name binding workspace.bindings }

/-- Lets a name stand for a new object. -/
def define (workspace : Workspace) (name : String) (v : Value) : Workspace :=
  let (cell, next) := Cell.ofValue workspace.next v
  { workspace.bind name (.value cell) with next := next }

/-- Applies a change everywhere. -/
def apply (workspace : Workspace) (change : Cell.Change) : Workspace :=
  { workspace with bindings := workspace.bindings.map fun (name, binding) => (name, binding.apply change) }

/-- Changes the object that a name stands for, with a new value if the change needs one. -/
def change (workspace : Workspace) (name : String) (v : Value)
    (act : Cell → Cell → Except PlaceError Cell.Change) : Except Refusal Workspace := do
  let cell ← (← workspace.find name).asCell
  let (new, next) := Cell.ofValue workspace.next v
  let change ← (act new cell).mapError .place
  return { workspace.apply change with next := next }

/-- The validator that a name stands for. -/
def validator (workspace : Workspace) (name : String) : Except Refusal Validator := do
  (← workspace.find name).asValidator

/-- The value that a source gives. -/
def fetch (workspace : Workspace) : Source → Except Refusal Value
  | .given v => .ok v
  | .named name => return (← workspace.find name).asValue

/-- The report that a name stands for. -/
def report (workspace : Workspace) (name : String) : Except Refusal Report := do
  (Report.ofValue (← workspace.find name).asValue).mapError .fault

end Workspace

/-- Carries out a command. -/
def Command.run (workspace : Workspace) : Command → Except Refusal (Answer × Workspace)
  | .define name v => .ok (.done, workspace.define name v)
  | .show name => return (.value (← workspace.find name).asValue, workspace)
  | .build name schema logger => do
    match ← workspace.find schema with
    | .value cell => match cell.schemaObjects? with
      | some objects => return (.done, workspace.bind name (.validator objects logger))
      | none => .error .unfit
    | .validator _ _ => .error .unfit
  | .rebuild name validator logger => do
    match ← workspace.find validator with
    | .validator objects _ => return (.done, workspace.bind name (.validator objects logger))
    | .value _ => .error .unfit
  | .assign name turns v => return (.done, ← workspace.change name v fun new cell =>
      cell.changeAt (Cell.assign new) turns)
  | .append name turns v => do
    match ← workspace.find name, turns with
    | .validator _ _, [] => .error .unfit
    | _, _ => return (.done, ← workspace.change name v fun new cell => do Cell.append new (← cell.follow turns))
  | .remove name turns => return (.done, ← workspace.change name .null fun _ cell =>
      cell.changeAt Cell.remove turns)
  | .summarize name separator => return (.summary (← workspace.report name) separator, workspace)
  | .row name paths separator =>
    return (.outcomes ((← workspace.report name).rowValues separator paths), workspace)
  | .same left right => do
    let a ← workspace.find left
    let b ← workspace.find right
    return (.truth (left = right || a.isSame b), workspace)
  | .display name => do
    match ← workspace.find name with
    | .value cell => return (.text cell.value.display, workspace)
    | binding => return (.text (← binding.asValidator).display, workspace)
  | .dump name => return (.objects (← workspace.validator name).objects, workspace)
  | .columns name separator => do
    let columns ← ((← workspace.validator name).columns separator).mapError .fault
    return (.texts columns, workspace)
  | .assignField name => do
    let _ ← workspace.validator name
    .error .frozenSchema
  | .assignPart name key part => do
    let validator ← workspace.validator name
    if Entries.has key validator.objects then .error (.frozenPart part) else .error (.place .missingKey)
  | .replaceSchema name => do
    let _ ← workspace.find name
    .error .unfit

/-- The validator and the data of a step that judges. -/
def Workspace.prepare (workspace : Workspace) (validator : String) (source : Source) :
    Except Refusal (Validator × Value) :=
  return (← workspace.validator validator, ← workspace.fetch source)

/-- Takes a step. A step that fails leaves every name as it was. -/
def Step.run {σ : Type} (host : Host σ) (workspace : Workspace) :
    Step → Action σ (Except Refusal (Answer × Workspace))
  | .command act => pure (act.run workspace)
  | .validate validator source name =>
    match workspace.prepare validator source with
    | .error refusal => pure (.error refusal)
    | .ok (validator, data) => do
      let report ← validator.validate host data
      pure (.ok (.report report, workspace.define name report.toValue))
  | .validateMany validator source name =>
    match workspace.prepare validator source with
    | .error refusal => pure (.error refusal)
    | .ok (validator, data) => do
      let reports ← validator.validateMany host data
      pure (.ok (.reports reports, workspace.define name (.list (reports.map Report.toValue))))

end RecordSchema.Session
