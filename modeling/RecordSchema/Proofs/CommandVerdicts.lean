import RecordSchema.CommandLine
import RecordSchema.Files.Tree
import RecordSchema.Proofs.Documents
import RecordSchema.Proofs.JsonRoundTrip
import RecordSchema.Proofs.OwnColumns
import RecordSchema.Proofs.RunHistories

/-! The verdict of the command line. Both what it judges by and what it judges comes from
JSON, so nothing can fail once it has been read: the schema has nothing to call, and each
record has a report of its own. From there on only writing is left, and what is written as
JSON is read back as the reports. -/
namespace RecordSchema

open Files

variable {m : Type → Type} [Monad m]

/-- What a disk and the standard input offer under the name of a source: the value that is
spelt on the standard input, in a file that is no table, or by the name itself where it is
that of no file. -/
inductive Files.Disk.Offers (disk : Disk m) (input : m String) : String → Value → Prop where
  | input {text : String} {v : Value} (given : input = pure text) (spelt : Json.read text.toList = .ok v) :
      Files.Disk.Offers disk input inputMark v
  | file {source : String} {octets : List UInt8} {v : Value} (named : source ≠ inputMark)
      (found : disk.look (normalPath source) = pure (.ok (.file octets)))
      (no_table : (pathExtension (normalPath source)).map Char.toLower ≠ tableExtension)
      (spelt : documentOf (normalPath source) octets = .ok v) : Files.Disk.Offers disk input source v
  | literal {source : String} {v : Value} (named : source ≠ inputMark)
      (no_file : disk.isFile (normalPath source) = pure (.ok false))
      (spelt : Json.read source.toList = .ok v) : Files.Disk.Offers disk input source v

namespace CommandVerdicts

variable {disk : Disk m} {input : m String} {path source : String} {octets : List UInt8} {v : Value}
  {entries : List (String × Value)} {kind : MappingKind} {validator : Validator} {logger : String}

/-! ## What is read -/

variable [LawfulMonad m]

theorem reads_both {α β : Type} {first : Reading m α} {next : α → Reading m β} {a : α}
    {result : m (Except SourceError β)} (head : first.run = pure (.ok a))
    (tail : (next a).run = result) :
    (first >>= next).run = result := by
  rw [ExceptT.run_bind, head, pure_bind]
  exact tail

theorem open_file (found : disk.look path = pure (.ok (.file octets))) :
    (openFile disk path).run = pure (.ok octets) := by
  have octets_read : disk.readOctets path = pure (.ok octets) := by
    rw [Disk.readOctets, found, pure_bind]
  change Except.mapError _ <$> disk.readOctets path = _
  rw [octets_read, map_pure]
  rfl

theorem probe_file {there : Bool} (asked : disk.isFile path = pure (.ok there)) :
    (Reading.ofAccess (SourceError.access · path) (disk.isFile path)).run = pure (.ok there) := by
  change Except.mapError _ <$> disk.isFile path = _
  rw [asked, map_pure]
  rfl

theorem read_records (offered : disk.Offers input source v) :
    (readRecords disk input source).run = pure (.ok (Records.ofValue v)) := by
  cases offered with
  | @input text v given spelt =>
    have taken : Records.ofInput text = .ok (Records.ofValue v) := by
      rw [Records.ofInput, spelt]
      rfl
    rw [readRecords, if_pos rfl, given]
    change Records.ofInput <$> pure text = _
    rw [map_pure, taken]
  | @file source octets v named found no_table spelt =>
    have asked : disk.isFile (normalPath source) = pure (.ok true) := by
      rw [Disk.isFile, found, pure_bind]
    rw [readRecords, if_neg named]
    refine reads_both (probe_file asked) (reads_both (open_file found) ?_)
    rw [if_neg no_table, spelt]
    rfl
  | literal named no_file spelt =>
    rw [readRecords, if_neg named]
    refine reads_both (probe_file no_file) ?_
    change pure (Records.ofLiteral source) = _
    rw [Records.ofLiteral, spelt]
    rfl

theorem gives_keys {fields : Schema} {report : Report} (gives : fields.Gives report) :
    report.map (·.1) = fields.map (·.1) := by
  induction report generalizing fields with
  | nil =>
    cases gives
    rfl
  | cons field rest ih =>
    cases gives with
    | cons key first others => rw [List.map_cons, List.map_cons, ih others]

mutual
theorem verdict_keys {rule : Rule} {verdict : Verdict} :
    rule.Gives verdict → rule.hasDistinctKeys = true → verdict.hasDistinctKeys = true
  | .leaf _ _, _ => rfl
  | .broken _, _ => rfl
  | .refused _, _ => rfl
  | .branch below, distinct => report_keys below distinct

/-- A report has no key twice if the schema has none. -/
theorem report_keys {fields : Schema} {report : Report} :
    Schema.Gives fields report → Schema.hasDistinctKeys fields = true → Report.hasDistinctKeys report = true
  | .nil, _ => rfl
  | .cons key first others, distinct => by
    simp only [Schema.hasDistinctKeys, Bool.and_eq_true, Bool.not_eq_true'] at distinct
    simp only [Report.hasDistinctKeys, Bool.and_eq_true, Bool.not_eq_true']
    refine ⟨⟨NodePaths.has_eq_false.mpr ?_, verdict_keys first distinct.1.2⟩, report_keys others distinct.2⟩
    rw [gives_keys others]
    exact NodePaths.has_eq_false.mp distinct.1.1
end

/-! ## Writing -/

end CommandVerdicts
end RecordSchema
