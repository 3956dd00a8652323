import RecordSchema.Proofs.JsonRoundTrip
import RecordSchema.Proofs.RowView
import RecordSchema.Proofs.SpelledPaths
import RecordSchema.Walkthrough

/-! Reports read as dictionaries. The dictionary of a report is filled path by path, and of
leaves with one path only the last is kept. A report has the shape of a schema, so the
paths of its nodes are different where those of the schema are: when no key is empty or
shares a character with the separator. Then the dictionary holds the leaves, all of them
and in order. -/
namespace RecordSchema

mutual
/-- Whether all keys below a verdict are of a kind. -/
def Verdict.allKeys (test : String → Bool) : Verdict → Bool
  | .leaf _ => true
  | .branch fields => Report.allKeys test fields
termination_by structural verdict => verdict

/-- Whether the keys of a report and all keys below them are of a kind. -/
def Report.allKeys (test : String → Bool) : List (String × Verdict) → Bool
  | [] => true
  | (key, verdict) :: rest => test key && verdict.allKeys test && Report.allKeys test rest
termination_by structural fields => fields
end

mutual
/-- The paths of a verdict and of the nodes below it. -/
def Verdict.nodePaths (separator path : String) : Verdict → List String
  | .leaf _ => [path]
  | .branch fields => path :: Report.nodePathsBelow separator path fields
termination_by structural verdict => verdict

/-- The paths of the nodes of a report below a path: of its leaves and of its nested keys. -/
def Report.nodePathsBelow (separator path : String) : List (String × Verdict) → List String
  | [] => []
  | (key, verdict) :: rest =>
    verdict.nodePaths separator (extendPath separator path key) ++ Report.nodePathsBelow separator path rest
termination_by structural fields => fields
end

mutual
/-- A rule of the shape of a verdict: nested where the verdict branches, and of no known type
where it ends. -/
def Verdict.shape : Verdict → Rule
  | .leaf _ => .primitive .unknown
  | .branch fields => .nested (Report.shape fields)
termination_by structural verdict => verdict

/-- A schema of the shape of a report. -/
def Report.shape : List (String × Verdict) → Schema
  | [] => []
  | (key, verdict) :: rest => (key, verdict.shape) :: Report.shape rest
termination_by structural fields => fields
end

namespace FlatReports

variable {separator path : String} {report : Report} {test : String → Bool}

/-! ## The shape of a report -/

theorem shape_keys (report : Report) : (Report.shape report).map (·.1) = report.map (·.1) := by
  induction report with
  | nil => rfl
  | cons field rest ih =>
    obtain ⟨key, verdict⟩ := field
    rw [Report.shape, List.map_cons, List.map_cons, ih]

theorem shape_has (report : Report) (key : String) :
    Entries.has key (Report.shape report) = Entries.has key report := by
  rw [Bool.eq_iff_iff, ← not_iff_not, Bool.not_eq_true, Bool.not_eq_true, NodePaths.has_eq_false,
    NodePaths.has_eq_false, shape_keys]

theorem shape_distinct (report : Report) :
    Schema.hasDistinctKeys (Report.shape report) = Report.hasDistinctKeys report := by
  induction report using Report.induction with
  | nil => rfl
  | leaf key passed rest ih =>
    simp [Report.shape, Schema.hasDistinctKeys, Report.hasDistinctKeys, Verdict.shape, Rule.hasDistinctKeys,
      Verdict.hasDistinctKeys, shape_has, ih]
  | branch key inner rest inside below =>
    simp [Report.shape, Schema.hasDistinctKeys, Report.hasDistinctKeys, Verdict.shape, Rule.hasDistinctKeys,
      Verdict.hasDistinctKeys, shape_has, inside, below]

theorem shape_all_keys (report : Report) :
    Schema.allKeys test (Report.shape report) = Report.allKeys test report := by
  induction report using Report.induction with
  | nil => rfl
  | leaf key passed rest ih =>
    simp [Report.shape, Schema.allKeys, Report.allKeys, Verdict.shape, Rule.allKeys, Verdict.allKeys, ih]
  | branch key inner rest inside below =>
    simp [Report.shape, Schema.allKeys, Report.allKeys, Verdict.shape, Rule.allKeys, Verdict.allKeys, inside, below]

theorem shape_node_paths (report : Report) :
    Schema.nodePathsBelow separator path (Report.shape report) = Report.nodePathsBelow separator path report := by
  induction report using Report.induction generalizing path with
  | nil => rfl
  | leaf key passed rest ih =>
    rw [Report.shape, Schema.nodePathsBelow, Report.nodePathsBelow, ih]
    rfl
  | branch key inner rest inside below =>
    rw [Report.shape, Schema.nodePathsBelow, Report.nodePathsBelow, Verdict.shape, Rule.nodePaths, Verdict.nodePaths,
      inside, below]

/-- A report is one that judging by its shape can end with. -/
theorem shape_gives (report : Report) : Schema.Gives (Report.shape report) report := by
  induction report using Report.induction with
  | nil => exact .nil
  | leaf key passed rest ih => exact .cons key (.leaf (by simp [Verdict.shape, Rule.kind?]) passed) ih
  | branch key inner rest inside below => exact .cons key (.branch inside) below

/-! ## The leaves of a report -/

/-- The nodes of a report with distinct plain keys have different paths. -/
theorem report_paths_nodup (mark : separator ≠ "") (distinct : Report.hasDistinctKeys report = true)
    (plain : Report.allKeys (isPlainKey separator) report = true) :
    (Report.nodePathsBelow separator "" report).Nodup := by
  rw [← shape_node_paths]
  rw [← shape_distinct] at distinct
  rw [← shape_all_keys] at plain
  exact NodePaths.node_paths_nodup mark distinct plain

theorem leaf_paths_within (report : Report) :
    ((report.leaves separator).map (·.1)).Sublist (Report.nodePathsBelow separator "" report) := by
  have within := (OwnColumns.outcomes_within (shape_gives report)).map (joinPath separator "")
  rw [List.map_map] at within
  rw [← shape_node_paths, NodePaths.node_paths_joined, Report.leaves, OwnColumns.leaves_joined, List.map_map]
  exact within

/-- The keys of an outcome are keys of the report. -/
theorem outcome_keys_kind (all : Report.allKeys test report = true) :
    ∀ outcome ∈ Report.outcomes report, ∀ key ∈ outcome.1, test key = true := by
  intro outcome member
  have node := (OwnColumns.outcomes_within (shape_gives report)).subset (List.mem_map_of_mem member)
  rw [← shape_all_keys] at all
  exact NodePaths.node_keys_kind _ all _ node

/-- Keys none of which is empty are spelt out in full. -/
theorem plain_spelled {keys : List String} (plain : ∀ key ∈ keys, isPlainKey separator key = true) :
    spelledPath separator keys = separator.intercalate keys := by
  refine SpelledPaths.spelled_in_full.mpr (.inr ?_)
  rintro rest rfl
  cases plain "" List.mem_cons_self

theorem leaf_paths_nodup (mark : separator ≠ "") (distinct : Report.hasDistinctKeys report = true)
    (plain : Report.allKeys (isPlainKey separator) report = true) : ((report.leaves separator).map (·.1)).Nodup :=
  (report_paths_nodup mark distinct plain).sublist (leaf_paths_within report)

theorem flatten_leaves (mark : separator ≠ "") (distinct : Report.hasDistinctKeys report = true)
    (plain : Report.allKeys (isPlainKey separator) report = true) :
    report.flatten separator = report.leaves separator :=
  Entries.of_pairs_distinct (leaf_paths_nodup mark distinct plain)

/-- With distinct plain keys the dictionary of a report is its outcomes, each under the keys that
lead to it. -/
theorem flatten_outcomes (mark : separator ≠ "") (distinct : Report.hasDistinctKeys report = true)
    (plain : Report.allKeys (isPlainKey separator) report = true) : report.flatten separator =
      (Report.outcomes report).map fun outcome => (separator.intercalate outcome.1, outcome.2) := by
  rw [flatten_leaves mark distinct plain, SpelledPaths.leaves_spelled]
  refine List.map_congr_left fun outcome member => ?_
  rw [← plain_spelled (outcome_keys_kind plain outcome member)]
  rfl

/-- The dictionary of a report keeps every leaf. For a separator that is not empty and a report
in which no mapping has a key twice and no key is empty or shares a character with the
separator, the paths of all nodes are different. So the dictionary has one entry for each
outcome of the report and no other, in the same order: under the keys that lead to the
outcome, with the separator between them, stands the outcome itself. The failures are the
entries that did not pass, each once, and the report is valid if and only if every entry
passed. Under the same conditions on its keys, a schema has no column twice. -/
theorem dictionary_keeps_leaves {separator : String} (mark : separator ≠ "") :
    (∀ report : Report, Report.hasDistinctKeys report = true →
      Report.allKeys (isPlainKey separator) report = true →
      (Report.nodePathsBelow separator "" report).Nodup ∧
      (∀ keys passed, (keys, passed) ∈ Report.outcomes report ↔ report.at? keys = some (.leaf passed)) ∧
      report.flatten separator =
        (Report.outcomes report).map (fun outcome => (separator.intercalate outcome.1, outcome.2)) ∧
      ((report.flatten separator).map (·.1)).Nodup ∧
      report.failures separator = ((report.flatten separator).filter (!·.2)).map (·.1) ∧
      (report.isValid = true ↔ ∀ entry ∈ report.flatten separator, entry.2 = true)) ∧
    ∀ schema : Schema, Schema.hasDistinctKeys schema = true →
      Schema.allKeys (isPlainKey separator) schema = true → (schema.columns separator).Nodup := by
  refine ⟨fun report distinct plain => ?_, fun schema distinct plain => ?_⟩
  · have kept := flatten_leaves mark distinct plain
    have keys_nodup : (Schema.nodeKeys (Report.shape report)).Nodup :=
      NodePaths.node_keys_nodup _ ((shape_distinct report).trans distinct)
    refine ⟨report_paths_nodup mark distinct plain, fun keys passed => ⟨?_, ?_⟩, flatten_outcomes mark distinct plain,
      ?_, ?_, ?_⟩
    · exact fun member => OwnColumns.outcome_stands (shape_gives report) keys_nodup member
    · exact OwnColumns.standing_outcome (.branch report) keys
    · rw [kept]
      exact leaf_paths_nodup mark distinct plain
    · rw [kept, Report.failures]
    · rw [kept, Report.isValid, SpelledPaths.leaves_spelled, SpelledPaths.leaves_spelled]
      simp
  · exact (NodePaths.node_paths_nodup mark distinct plain).sublist (RowView.columns_within_nodes schema)

/-- The report on the walkthrough record, with a separator of two characters. Two keys lead to a
postal code that fails, and its path leads back to nothing else. -/
theorem walkthrough_dictionary :
    "::" ≠ "" ∧ Report.hasDistinctKeys Walkthrough.report = true ∧
    Report.allKeys (isPlainKey "::") Walkthrough.report = true ∧
    Walkthrough.report.at? ["address", "zip"] = some (.leaf false) ∧
    (Report.nodePathsBelow "::" "" Walkthrough.report).Nodup ∧
    Walkthrough.report.flatten "::" = [("name", true), ("status", true), ("balance", false), ("tags", true),
      ("deleted", true), ("address::city", true), ("address::zip", false)] ∧
    Walkthrough.report.failures "::" = ["balance", "address::zip"] ∧
    (Walkthrough.validator.schema.columns "::").Nodup := by
  have mark : "::" ≠ "" := by decide
  obtain ⟨dictionary, columns⟩ := dictionary_keeps_leaves mark
  obtain ⟨nodes, -, flat, -, failed, -⟩ := dictionary Walkthrough.report (by decide) (by decide)
  have entries : Walkthrough.report.flatten "::" = [("name", true), ("status", true), ("balance", false),
      ("tags", true), ("deleted", true), ("address::city", true), ("address::zip", false)] := by
    rw [flat]
    decide
  refine ⟨mark, by decide, by decide, rfl, nodes, entries, ?_, columns _ (by decide) (by decide)⟩
  rw [failed, entries]
  rfl

end FlatReports
end RecordSchema
