import RecordSchema.Report
import RecordSchema.Text.Blank
import RecordSchema.Text.Title

/-! Reports as Markdown cards: a task list of the leaves, then a headed section for every field that is a
record of its own. -/
namespace RecordSchema

/-- The task-list item of a leaf. -/
def leafItem (key : String) (passed : Bool) : String := (if passed then "- [x] " else "- [ ] ") ++ key

/-- The heading text of a key: underscores become spaces, words are capitalised. -/
def headingText (key : String) : String :=
  String.ofList (Text.title (key.toList.map fun c => if c = '_' then ' ' else c))

/-- What stands for the body of a section without fields. -/
def emptyBody : String := "_no fields_"

/-- The heading of a section; a level that is not positive has no mark. -/
def headingLine (level : Int) (key : String) : String :=
  String.ofList (List.replicate level.toNat '#') ++ " " ++ headingText key

/-- The card of the given items and section lines. -/
def cardOf (items sections : List String) : String :=
  let parts := items ++ (if items.isEmpty || sections.isEmpty then [] else [""]) ++ sections
  String.ofList (Text.trimEnd (String.intercalate "\n" parts).toList)

namespace Report

/-- The items of the leaves of a report. -/
def leafItems (report : Report) : List String :=
  report.filterMap fun (key, verdict) => match verdict with
    | .leaf passed => some (leafItem key passed)
    | .branch _ => none

mutual
/-- The section lines for one field, none for a leaf. -/
def sectionLines (level : Int) (key : String) : Verdict → List String
  | .leaf _ => []
  | .branch fields =>
    let body := cardOf (leafItems fields) (sections (level + 1) fields)
    [headingLine level key, if body.isEmpty then emptyBody else body, ""]
termination_by structural verdict => verdict

/-- The section lines for the fields of a report. -/
def sections (level : Int) : List (String × Verdict) → List String
  | [] => []
  | (key, verdict) :: rest => sectionLines level key verdict ++ sections level rest
termination_by structural fields => fields
end

/-- The heading level of the outermost sections where none is asked for. -/
def defaultLevel : Int := 2

/-- The card of a report whose outermost sections have the given heading level. -/
def card (level : Int) (report : Report) : String := cardOf (leafItems report) (sections level report)

end Report
end RecordSchema
