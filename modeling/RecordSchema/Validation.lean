import RecordSchema.Report.Paths
import RecordSchema.Rule.Authoring
import RecordSchema.Validation.Action
import RecordSchema.Value.Truth

/-! Validation: judging a value field by field by a schema.

The schema is walked, never the value, so what is found has the keys of the schema and nothing that the
schema does not name is looked at. Failures are found, not raised: the only faults are those of calls, of
comparisons without an outcome, and of broken rules. -/
namespace RecordSchema

variable {σ : Type}

/-- What judging takes besides a rule and a value: the meaning of calls, and the logger that is told of
trouble. -/
structure Judge (σ : Type) where
  host : Host σ
  logger : String

namespace Judge

variable (judge : Judge σ)

/-- Tells the logger. -/
def warn (notice : Notice) : Action σ Unit := .log judge.logger notice

/-- Makes a call, which is an event of its own, and asks for the truth of what it gives. -/
def holds (callee : Callable) (v : Value) : Action σ Bool := do
  .emit (.called callee v)
  let answer ← judge.host callee v
  .ofExcept answer.truth

/-- Tries the elements of an array in order, up to the first that fails. -/
def allPass (check : Value → Action σ Bool) : List Value → Action σ Bool
  | [] => pure true
  | v :: vs => do if ← check v then allPass check vs else pure false

/-- The elements of an array. -/
def elements? : Value → Option (List Value)
  | .list items | .tuple items | .named _ items => some items
  | _ => none

/-- Judges a present value by a simple rule. -/
def checkSimple (path : String) : Rule → Value → Action σ Bool
  | .primitive tag, v => pure (tag.accepts v)
  | .predicate callee, v => judge.holds callee v
  | .enumeration literals, v => .ofExcept (v.isAmong literals)
  | .array item, v =>
    match elements? v with
    | none => pure false
    | some elements =>
      if item.isScalar then allPass (fun element => checkSimple path item element) elements
      else if elements.isEmpty then pure true
      else do
        judge.warn (.unsupportedItem path item.typeName)
        pure false
  | .broken _ fault, _ => .fail fault
  | rule, _ => do
    judge.warn (.unsupportedRule path rule.typeName)
    pure false
termination_by structural rule => rule

/-- Judges a present value by the members of a composite, in order, up to the first that fails. -/
def checkMembers (path : String) : List Rule → Value → Action σ Bool
  | [], _ => pure true
  | member :: members, v =>
    if member.isSimple then do
      if ← judge.checkSimple path member v then checkMembers path members v else pure false
    else do
      judge.warn (.unsupportedMember path member.typeName)
      pure false

/-- Judges a present value by a rule that is not nested. -/
def checkPresent (path : String) (rule : Rule) (v : Value) : Action σ Bool :=
  match rule with
  | .composite members => judge.checkMembers path members v
  | .unrecognized raw => do
    judge.warn (.unrecognizedRule path raw)
    pure false
  | rule => judge.checkSimple path rule v

/-- The record to judge a nested rule by: an absent field and one bound to no value are an empty record. -/
def record? : Option Value → Option (List (String × Value))
  | none | some .undefined => some []
  | some v => v.entries?

/-- Judges what is under a key by a rule that is not nested. The tag `undefined` is passed by absence, the
tag `null` by the empty value, and every other rule needs a value to look at. A tag that may be either of them or
not leaves the question open. -/
def judgeLeaf (path : String) (slot : Option Value) : Rule → Action σ Bool
  | .primitive .undetermined => .fail .undetermined
  | .primitive .undefined => pure (((slot.map Value.kind).getD .undefined) == .undefined)
  | .primitive .null => pure (slot.map Value.kind == some .null)
  | rule => match slot with
    | none => pure false
    | some v => judge.checkPresent path rule v

/-- Tells that something other than a record is under a key. -/
def refuseNested (path : String) (slot : Option Value) : Action σ Verdict := do
  judge.warn (.notARecord path ((slot.map Value.typeName).getD ""))
  pure (.leaf false)

mutual
/-- Judges what is under a key by the rule at a path. -/
def judgeField (path : String) (slot : Option Value) : Rule → Action σ Verdict
  | .nested fields => match record? slot with
    | some entries => Verdict.branch <$> judgeFields path entries fields
    | none => judge.refuseNested path slot
  | .broken .nested fault => match record? slot with
    | some _ => .fail fault
    | none => judge.refuseNested path slot
  | rule => Verdict.leaf <$> judge.judgeLeaf path slot rule
termination_by structural rule => rule

/-- Judges the entries of a record by the fields below a path, in the order of the schema. -/
def judgeFields (path : String) (entries : List (String × Value)) : List (String × Rule) → Action σ Report
  | [] => pure []
  | (key, rule) :: rest => do
    let verdict ← judgeField (extendPath defaultSeparator path key) (entries.lookup key) rule
    ((key, verdict) :: ·) <$> judgeFields path entries rest
termination_by structural fields => fields
end

/-- Judges a value by a schema; what is no mapping counts as an empty record. The report is logged. -/
def validate (schema : Schema) (data : Value) : Action σ Report := do
  let report ← judge.judgeFields "" (data.entries?.getD []) schema
  .log judge.logger (.judged report)
  pure report

/-- Judges values one after another. -/
def validateAll (schema : Schema) : List Value → Action σ (List Report)
  | [] => pure []
  | record :: records => do
    let report ← judge.validate schema record
    (report :: ·) <$> validateAll schema records

end Judge

/-- The logger that validators use where none is asked for. -/
def validatorLogger : String := "object_validator.validator"

/-- A validator: the rule objects of a schema by key, and a logger. -/
structure Validator where
  objects : List (String × Value)
  logger : String

namespace Validator

/-- The validator of an authored schema. -/
def ofAuthored (authored : Value) (logger : String) : Except Fault Validator :=
  authored.schemaObjects.map fun objects => ⟨objects, logger⟩

/-- The schema that a validator judges by. -/
def schema (validator : Validator) : Schema := Rule.ofFields validator.objects

/-- The judge that a validator sets to work. -/
def judge (validator : Validator) (host : Host σ) : Judge σ := ⟨host, validator.logger⟩

/-- The paths of the leaves of reports. A broken nested rule has no fields to list. -/
def columns (validator : Validator) (separator : String) : Except Fault (List String) :=
  if Schema.areListable validator.schema then .ok (validator.schema.columns separator) else .error .notAMapping

/-- Judges a value. -/
def validate (validator : Validator) (host : Host σ) (data : Value) : Action σ Report :=
  (validator.judge host).validate validator.schema data

/-- Judges the values that a walk through a value meets. -/
def validateMany (validator : Validator) (host : Host σ) (records : Value) : Action σ (List Report) :=
  match records.items? with
  | some items => (validator.judge host).validateAll validator.schema items
  | none => .fail .unsupported

/-- The written form of a validator, which lists its keys. -/
def display (validator : Validator) : String :=
  "Validator(fields=" ++ (Value.list (validator.objects.map fun (key, _) => .text key)).display ++ ")"

end Validator
end RecordSchema
