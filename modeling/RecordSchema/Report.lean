import RecordSchema.Value.Display

/-! Reports: what a validation finds. A report has the keys of its schema; under each stands whether the
field passed or, for a field that is a record of its own, a report on that record. -/
namespace RecordSchema

/-- What is found about one field. -/
inductive Verdict where
  | leaf (passed : Bool)
  | branch (fields : List (String × Verdict))

/-- What is found about a record, key by key. -/
abbrev Report := List (String × Verdict)

mutual
/-- A verdict as a value: a truth value, or a mapping. -/
def Verdict.toValue : Verdict → Value
  | .leaf passed => .bool passed
  | .branch fields => .mapping .plain (Verdict.toEntries fields)
termination_by structural verdict => verdict

/-- A report as the entries of a mapping. -/
def Verdict.toEntries : List (String × Verdict) → List (String × Value)
  | [] => []
  | (key, verdict) :: rest => (key, verdict.toValue) :: Verdict.toEntries rest
termination_by structural fields => fields
end

/-- A report as a value. -/
def Report.toValue (report : Report) : Value := .mapping .plain (Verdict.toEntries report)

mutual
/-- The verdict that a value amounts to: a mapping is a report, and of everything else only the truth value
true is a pass. -/
def Verdict.ofValue : Value → Verdict
  | .mapping _ entries => .branch (Verdict.ofEntries entries)
  | .bool passed => .leaf passed
  | _ => .leaf false
termination_by structural v => v

/-- The report that the entries of a mapping amount to. -/
def Verdict.ofEntries : List (String × Value) → List (String × Verdict)
  | [] => []
  | (key, v) :: rest => (key, Verdict.ofValue v) :: Verdict.ofEntries rest
termination_by structural entries => entries
end

/-- The report that a value amounts to; only a mapping does. -/
def Report.ofValue (v : Value) : Except Fault Report :=
  match v.entries? with
  | some entries => .ok (Verdict.ofEntries entries)
  | none => .error .notAMapping

end RecordSchema
