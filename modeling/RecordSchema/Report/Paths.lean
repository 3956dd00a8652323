import RecordSchema.Entries
import RecordSchema.Report
import RecordSchema.Rule

/-! Reports and schemas read leaf by leaf. A leaf is named by its path, the keys that lead to it with a
separator between them. -/
namespace RecordSchema

/-- The separator of paths where none is asked for. -/
def defaultSeparator : String := "."

/-- The path of a key below a path. An empty path is taken for the top, so nothing is put between it and the
key. -/
def extendPath (separator path key : String) : String :=
  if path.isEmpty then key else path ++ separator ++ key

mutual
/-- The leaves of a verdict whose path is given, in order. -/
def Verdict.leaves (separator path : String) : Verdict → List (String × Bool)
  | .leaf passed => [(path, passed)]
  | .branch fields => Report.leavesBelow separator path fields
termination_by structural verdict => verdict

/-- The leaves of a report below a path, in order. -/
def Report.leavesBelow (separator path : String) : List (String × Verdict) → List (String × Bool)
  | [] => []
  | (key, verdict) :: rest =>
    verdict.leaves separator (extendPath separator path key) ++ Report.leavesBelow separator path rest
termination_by structural fields => fields
end

namespace Report

/-- The leaves of a report with their paths, in order. -/
def leaves (separator : String) (report : Report) : List (String × Bool) := leavesBelow separator "" report

/-- Whether every leaf passed. -/
def isValid (report : Report) : Bool := (report.leaves defaultSeparator).all (·.2)

/-- The paths of the leaves that failed, in order. -/
def failures (separator : String) (report : Report) : List String :=
  ((report.leaves separator).filter (!·.2)).map (·.1)

/-- The leaves by path; of leaves with one path the last counts. -/
def flatten (separator : String) (report : Report) : List (String × Bool) :=
  Entries.ofPairs (report.leaves separator)

/-- One outcome for every column. A column that is no leaf lies below a field that failed as a whole. -/
def rowValues (separator : String) (report : Report) (columns : List String) : List Bool :=
  let flat := report.flatten separator
  columns.map fun column => (flat.lookup column).getD false

end Report

mutual
/-- The paths of the leaves that judging a rule at a path can give. -/
def Rule.columns (separator path : String) : Rule → List String
  | .nested fields => Schema.columnsBelow separator path fields
  | _ => [path]
termination_by structural rule => rule

/-- The paths of the leaves below a path. -/
def Schema.columnsBelow (separator path : String) : List (String × Rule) → List String
  | [] => []
  | (key, rule) :: rest =>
    rule.columns separator (extendPath separator path key) ++ Schema.columnsBelow separator path rest
termination_by structural fields => fields
end

mutual
/-- Whether the leaves below a rule can be listed: no nested rule in it is a broken one. -/
def Rule.isListable : Rule → Bool
  | .nested fields => Schema.areListable fields
  | .broken .nested _ => false
  | _ => true
termination_by structural rule => rule

/-- Whether the leaves below all fields can be listed. -/
def Schema.areListable : List (String × Rule) → Bool
  | [] => true
  | (_, rule) :: rest => rule.isListable && Schema.areListable rest
termination_by structural fields => fields
end

/-- The paths of the leaves that judging by a schema gives, in order. -/
def Schema.columns (separator : String) (schema : Schema) : List String :=
  Schema.columnsBelow separator "" schema

end RecordSchema
