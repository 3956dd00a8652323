import RecordSchema.Validation
import RecordSchema.Value.Conversion

/-! Tables judged row by row. A row becomes a record in which missing cells are absent fields; the outcome is
a table of truth values with one column per leaf of the schema. How cells are stored, and by which labels rows
are known, is the business of those who make tables. -/
namespace RecordSchema

/-- Whether a cell counts as missing, as the empty value does, the marks of a missing cell and time, and what is
no number in any numeric format. The mark of no value and containers are present. Whether something is no number
is found by comparing it with itself, which a signalling decimal refuses. -/
def Value.isMissingCell : Value → Except Fault Bool
  | .null | .missing | .missingTime => .ok true
  | .float x => .ok x.isNaN
  | .decimal d => if d.isSignalling then .error .signalled else .ok d.isNaN
  | .complex re im => .ok (re.isNaN || im.isNaN)
  | _ => .ok false

/-- The record of a row: its cells without the missing ones. -/
def recordOfRow : List (String × Value) → Except Fault (List (String × Value))
  | [] => .ok []
  | (name, cell) :: cells => do
    let isMissing ← cell.isMissingCell
    let record ← recordOfRow cells
    return if isMissing then record else (name, cell) :: record

/-- A row of a table: cells under the names of their columns, which are distinct. -/
structure Row where
  cells : List (String × Value)
  distinct : (cells.map (·.1)).Nodup

/-- A table. A row without cells is a row all the same. -/
structure Table where
  rows : List Row

namespace Table

/-- The logger that is told when a table has been judged. -/
def logger : String := "object_validator.frame"

/-- Judges rows one after another, each as the record that it makes. -/
def judgeRows {σ : Type} (validator : Validator) (host : Host σ) (separator : String) (columns : List String) :
    List Row → Action σ (List (List Bool))
  | [] => pure []
  | row :: rows => do
    let record ← .ofExcept (recordOfRow row.cells)
    let report ← validator.validate host (.mapping .plain record)
    (report.rowValues separator columns :: ·) <$> judgeRows validator host separator columns rows

/-- Judges a table: the names of the leaves, and for every row one outcome per leaf. -/
def validate {σ : Type} (validator : Validator) (host : Host σ) (separator : String) (table : Table) :
    Action σ (List String × List (List Bool)) := do
  let columns ← .ofExcept (validator.columns separator)
  let outcomes ← judgeRows validator host separator columns table.rows
  .log logger (.rowsJudged outcomes.length columns.length)
  return (columns, outcomes)

/-- For every row, whether all its outcomes are passes. -/
def validRows {σ : Type} (validator : Validator) (host : Host σ) (table : Table) : Action σ (List Bool) := do
  let (_, outcomes) ← table.validate validator host defaultSeparator
  return outcomes.map fun outcome => outcome.all id

end Table
end RecordSchema
