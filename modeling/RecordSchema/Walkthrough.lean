import RecordSchema.CommandLine
import RecordSchema.Predicate
import RecordSchema.Table
import RecordSchema.Table.Layout

/-! A walk through the library: a schema with one field of every kind, a record, the report on it, and a table
judged row by row. -/
namespace RecordSchema.Walkthrough

/-! ## The schema -/

/-- The states of an account. -/
def status : Value := .enumClass "Status" .plain [("ACTIVE", .text "active"), ("SUSPENDED", .text "suspended")]

/-- Whether a number is above zero. -/
def isPositive : Callable := .function 0 "is_positive"

/-- Whether a value is a text of digits. -/
def isDigits : Callable := .function 1 "<lambda>"

/-- What the functions do. -/
def catalogue : Catalogue := [.above (.int 0), .digits]

/-- The meaning of calls. -/
def host : Host Tally := catalogue.host

/-- The fields of the schema. -/
def fields : List (String × Value) := [
  ("name", .text "string"),
  ("status", status),
  ("balance", .list [.text "number", .callable isPositive]),
  ("tags", .mapping .plain [(itemTypeKey, .text "string")]),
  ("deleted", .text "undefined"),
  ("address", .mapping .plain [("city", .text "string"), ("zip", .callable isDigits)])]

/-- The validator of the schema. -/
def validator : Validator := ⟨Value.ruleEntries fields, validatorLogger⟩

/-! ## A record -/

/-- A record with an overdrawn account and no postal code. -/
def record : Value := .mapping .plain [
  ("name", .text "Ada"),
  ("status", .text "active"),
  ("balance", .float (.ofRatio true 25 2)),
  ("tags", .list [.text "vip"]),
  ("address", .mapping .plain [("city", .text "London")])]

/-- The judging of the record. -/
def recordOutcome : Outcome Tally Report := validator.validate host record []

/-- The report on the record. -/
def report : Report :=
  match recordOutcome.result with
  | .ok report => report
  | .error _ => []

/-- The log line about a report. -/
def summary (report : Report) : CommandLine.LogLine :=
  let failures := Value.list ((report.failures defaultSeparator).map .text)
  ⟨.info, "valid=" ++ (Value.bool report.isValid).display ++ " failures=" ++ failures.display⟩

/-! ## A table -/

/-- A row of the table. Without an address its cell is empty. -/
def row (name status : String) (balance : Nat) (tags : List Value) (address : Value) : Row :=
  ⟨[("name", .text name), ("status", .text status), ("balance", .float (.ofRatio false balance 1)),
    ("tags", .list tags), ("address", address)], by simp⟩

/-- A table of two rows, the second of which has no address. -/
def table : Table where
  rows := [
    row "Ada" "active" 10 [.text "vip"] (.mapping .plain [("city", .text "London"), ("zip", .text "12345")]),
    row "Bob" "closed" 3 [] .null]

/-- The judging of the table. -/
def tableOutcome : Outcome Tally (List String × List (List Bool)) :=
  table.validate validator host defaultSeparator recordOutcome.state

/-- The lines that show what was found in the table. -/
def tableLines : List String :=
  match tableOutcome.result with
  | .ok (columns, rows) => Table.layout columns ((List.range rows.length).map toString) rows
  | .error _ => []

/-! ## The whole -/

/-- The log lines of events. -/
def logLines (events : List Event) : List CommandLine.LogLine :=
  (events.filterMap CommandLine.LogLine.ofEvent?).filter (·.level.passes .info)

/-- What the walk leaves behind: the card of the report, the table, and the log. -/
def transcript : CommandLine.Transcript where
  ending := .exit 0
  output := CommandLine.unlines (report.card Report.defaultLevel :: tableLines)
  log := logLines recordOutcome.events ++ [summary report] ++ logLines tableOutcome.events
  complaint := ""

end RecordSchema.Walkthrough
