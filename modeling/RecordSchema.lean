import RecordSchema.CommandLine
import RecordSchema.CommandLine.Arguments
import RecordSchema.Csv.Records
import RecordSchema.Csv.Writer
import RecordSchema.Files.Tree
import RecordSchema.Json.Reader
import RecordSchema.Json.Writer
import RecordSchema.Main
import RecordSchema.Number.Decimal
import RecordSchema.Number.Shortest
import RecordSchema.Predicate
import RecordSchema.Proofs.AbsentRecords
import RecordSchema.Proofs.Acceptance
import RecordSchema.Proofs.Actions
import RecordSchema.Proofs.ArrayElements
import RecordSchema.Proofs.CardOutline
import RecordSchema.Proofs.CheckSequences
import RecordSchema.Proofs.CommandVerdicts
import RecordSchema.Proofs.Comparison
import RecordSchema.Proofs.CompositeMembers
import RecordSchema.Proofs.Documents
import RecordSchema.Proofs.EntryLists
import RecordSchema.Proofs.EqualPositions
import RecordSchema.Proofs.EqualityLaws
import RecordSchema.Proofs.FaultOrigins
import RecordSchema.Proofs.FieldSequence
import RecordSchema.Proofs.FlatReports
import RecordSchema.Proofs.JsonRoundTrip
import RecordSchema.Proofs.LastResort
import RecordSchema.Proofs.LeafPaths
import RecordSchema.Proofs.Likeness
import RecordSchema.Proofs.LiteralSources
import RecordSchema.Proofs.MatchingParts
import RecordSchema.Proofs.MissingCells
import RecordSchema.Proofs.NestedRecords
import RecordSchema.Proofs.NodePaths
import RecordSchema.Proofs.OwnColumns
import RecordSchema.Proofs.PathVerdicts
import RecordSchema.Proofs.Precompiling
import RecordSchema.Proofs.Projection
import RecordSchema.Proofs.RowView
import RecordSchema.Proofs.RuleObjects
import RecordSchema.Proofs.RuleSoundness
import RecordSchema.Proofs.RunHistories
import RecordSchema.Proofs.SchemaWalk
import RecordSchema.Proofs.SpelledPaths
import RecordSchema.Proofs.TaggedLiterals
import RecordSchema.Proofs.Trials
import RecordSchema.Proofs.UnboundKeys
import RecordSchema.Proofs.WarnedLeaves
import RecordSchema.Report.Card
import RecordSchema.Session
import RecordSchema.Source
import RecordSchema.Table
import RecordSchema.Text.Blank
import RecordSchema.Text.Digit
import RecordSchema.Text.Lines
import RecordSchema.Text.Quoted
import RecordSchema.Text.Title
import RecordSchema.Text.Utf8
import RecordSchema.Validation
import RecordSchema.Value.Conversion
import RecordSchema.Value.Equality
import RecordSchema.Walkthrough
