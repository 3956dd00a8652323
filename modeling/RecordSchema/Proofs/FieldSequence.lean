import RecordSchema.Proofs.EntryLists
import RecordSchema.Proofs.Likeness
import RecordSchema.Walkthrough

/-! Fields one after another. A schema whose fields are those of one schema
followed by those of another one judges as the two do in turn, each from the state
of the predicates that it finds. So all that a field can do to the fields after it
goes through that state, and a field that leaves the state as it is does nothing to
them at all. -/
namespace RecordSchema

/-- The validator of a schema authored as a mapping with these entries. -/
def Validator.ofEntries (logger : String) (entries : List (String × Value)) : Validator :=
  ⟨Value.ruleEntries entries, logger⟩

namespace FieldSequence

variable {σ : Type} {judge : Judge σ} {validator one two whole : Validator} {host : Host σ} {data : Value}
  {path : String} {entries : List (String × Value)} {state : σ}

/-- Judging fields and then others is judging them all. -/
theorem judge_fields_append (first second : Schema) :
    judge.judgeFields path entries (first ++ second) = (do
      let front ← judge.judgeFields path entries first
      (front ++ ·) <$> judge.judgeFields path entries second) := by
  induction first with
  | nil => simp [Judge.judgeFields]
  | cons field rest ih =>
    obtain ⟨key, rule⟩ := field
    simp [Judge.judgeFields, ih]

/-- The rules of entries and then of others are the rules of them all. -/
theorem schema_append (logger : String) (first second : List (String × Value)) :
    (Validator.ofEntries logger (first ++ second)).schema =
      (Validator.ofEntries logger first).schema ++ (Validator.ofEntries logger second).schema := by
  simp only [Validator.ofEntries, Validator.schema]
  induction first with
  | nil => rfl
  | cons field rest ih =>
    obtain ⟨key, v⟩ := field
    simp only [List.cons_append, Value.ruleEntries, Rule.ofFields, ih]

/-- What the first of two parts of a schema finds is all that is found if it is a fault. -/
theorem finds_fault {front : Outcome σ Report} {fault : Fault} (split : whole.schema = one.schema ++ two.schema)
    (logger : whole.logger = one.logger) (found : one.Finds host data state front)
    (failed : front.result = .error fault) : whole.Finds host data state front := by
  have same : whole.judge host = one.judge host := by rw [Validator.judge, Validator.judge, logger]
  obtain ⟨result, after, events⟩ := front
  cases failed
  rw [Validator.finds_iff] at found ⊢
  rw [split, judge_fields_append, same, Action.bind_of_error found]

/-- What the second part finds is put after what the first one found. -/
theorem finds_both {front back : Outcome σ Report} {report : Report}
    (split : whole.schema = one.schema ++ two.schema) (loggers : whole.logger = one.logger ∧ whole.logger = two.logger)
    (found : one.Finds host data state front) (returned : front.result = .ok report)
    (found' : two.Finds host data front.state back) :
    whole.Finds host data state ⟨back.result.map (report ++ ·), back.state, front.events ++ back.events⟩ := by
  have same : whole.judge host = one.judge host := by rw [Validator.judge, Validator.judge, loggers.1]
  have same' : whole.judge host = two.judge host := by rw [Validator.judge, Validator.judge, loggers.2]
  obtain ⟨result, middle, events⟩ := front
  cases returned
  rw [Validator.finds_iff] at found found' ⊢
  rw [split, judge_fields_append]
  rw [← same] at found
  rw [← same'] at found'
  refine Action.bind_runs found ?_
  rw [Action.map_run, found']

/-- Without calls, judging leaves the state of the predicates as it is. -/
private def untouched (judge : Judge σ) : judge.Upkeep (fun _ => False) where
  upheld before after _ := after = before
  still _ := rfl
  onward head tail := tail.trans head
  calls _ _ never := never.elim
  warned := True
  warnings _ _ _ _ := rfl

theorem uncalled_keeps_state {found : Outcome σ Report}
    (uncalled : ∀ callee, .predicate callee ∉ Schema.parts validator.schema)
    (finds : validator.Finds host data state found) : found.state = state := by
  rw [Validator.finds_iff] at finds
  rw [← finds]
  exact (untouched (validator.judge host)).judge_fields trivial validator.schema uncalled _ state

theorem finds_some (validator : Validator) (host : Host σ) (data : Value) (state : σ) :
    ∃ found, validator.Finds host data state found :=
  ⟨_, Validator.finds_iff.mpr rfl⟩

/-- The validator of two mappings with no common key. -/
theorem built_together {first second : List (String × Value)} (logger : String)
    (distinct : ((first ++ second).map (·.1)).Nodup) (kind : MappingKind) :
    Validator.ofAuthored (.mapping kind (Entries.ofPairs (first ++ second))) logger =
      .ok (.ofEntries logger (first ++ second)) := by
  rw [Entries.of_pairs_distinct distinct]
  rfl

/-- Fields are judged in isolation and in the order of the schema. A schema made
of the fields of one mapping and then those of another one, with no key in both,
finds what the first one finds if that is a fault. Otherwise it goes on with the
second one from the state of the predicates that the first one left, and the
reports and events are put one after the other, or the fault of the second one is the
fault of the whole. So a field between the two that returns changes nothing of
what they find but through the state of the predicates, which a field without
predicates leaves as it is. -/
theorem fields_judged_apart (first second : List (String × Value))
    (distinct : ((first ++ second).map (·.1)).Nodup) (logger : String) (host : Host σ) (data : Value) (state : σ) :
    ∃ one two whole, (∀ kind, Validator.ofAuthored (.mapping kind first) logger = .ok one) ∧
      (∀ kind, Validator.ofAuthored (.mapping kind second) logger = .ok two) ∧
      (∀ kind, Validator.ofAuthored (.mapping kind (Entries.ofPairs (first ++ second))) logger = .ok whole) ∧
      ∃ front, one.Finds host data state front ∧
        (∀ fault, front.result = .error fault → whole.Finds host data state front) ∧
        ∀ report, front.result = .ok report → ∃ back, two.Finds host data front.state back ∧
          whole.Finds host data state ⟨back.result.map (report ++ ·), back.state, front.events ++ back.events⟩ ∧
          ∀ key v, key ∉ (first ++ second).map (·.1) → ∃ single wider own,
            (∀ kind, Validator.ofAuthored (.mapping kind [(key, v)]) logger = .ok single) ∧
            (∀ kind, Validator.ofAuthored (.mapping kind (Entries.ofPairs (first ++ (key, v) :: second))) logger =
              .ok wider) ∧
            single.Finds host data front.state own ∧
            ((∀ callee, .predicate callee ∉ Schema.parts single.schema) → own.state = front.state) ∧
            ∀ verdict, own.result = .ok verdict → own.state = front.state →
              wider.Finds host data state ⟨back.result.map (report ++ verdict ++ ·), back.state,
                front.events ++ own.events ++ back.events⟩ := by
  obtain ⟨front, found⟩ := finds_some (.ofEntries logger first) host data state
  refine ⟨.ofEntries logger first, .ofEntries logger second, .ofEntries logger (first ++ second), fun kind => rfl,
    fun kind => rfl, built_together logger distinct, front, found, fun fault failed => ?_, fun report returned => ?_⟩
  · exact finds_fault (schema_append logger first second) rfl found failed
  obtain ⟨back, found'⟩ := finds_some (.ofEntries logger second) host data front.state
  refine ⟨back, found', finds_both (schema_append logger first second) ⟨rfl, rfl⟩ found returned found', ?_⟩
  -- A field between the two is the first part of what is left of the wider schema.
  intro key v new
  obtain ⟨own, between⟩ := finds_some (.ofEntries logger [(key, v)]) host data front.state
  have apart : ((first ++ (key, v) :: second).map (·.1)).Nodup := by
    rw [List.map_append] at distinct new ⊢
    exact List.nodup_middle.mpr (List.nodup_cons.mpr ⟨new, distinct⟩)
  refine ⟨.ofEntries logger [(key, v)], .ofEntries logger (first ++ (key, v) :: second), own, fun kind => rfl,
    built_together logger apart, between, fun uncalled => uncalled_keeps_state uncalled between, ?_⟩
  intro verdict passed kept
  rw [← kept] at found'
  have rest := finds_both (schema_append logger [(key, v)] second) ⟨rfl, rfl⟩ between passed found'
  have all := finds_both (schema_append logger first ((key, v) :: second)) ⟨rfl, rfl⟩ found returned rest
  have joined : (back.result.map (verdict ++ ·)).map (report ++ ·) = back.result.map (report ++ verdict ++ ·) := by
    cases back.result <;> simp [Except.map]
  rwa [joined, ← List.append_assoc] at all

/-- A predicate that passes its first call only: the balance takes it, the limit
is one call too late, and a note between them, whose rule is not recognized, is
warned of and changes neither. -/
theorem walkthrough_fields_apart :
    let host := Catalogue.host [.firstCalls 1]
    let data := Value.mapping .plain [("balance", .int 5), ("note", .null), ("limit", .int 9)]
    let first := [("balance", Value.callable Walkthrough.isPositive)]
    let second := [("limit", Value.callable Walkthrough.isPositive)]
    let called (v : Value) : Event := .called Walkthrough.isPositive v
    let told : Event := .logged validatorLogger (.unrecognizedRule "note" (.int 7))
    ((first ++ second).map (·.1)).Nodup ∧
    (Validator.ofEntries validatorLogger (first ++ second)).Finds host data []
      ⟨.ok [("balance", .leaf true), ("limit", .leaf false)], [(0, 2)], [called (.int 5), called (.int 9)]⟩ ∧
    (Validator.ofEntries validatorLogger (first ++ ("note", .int 7) :: second)).Finds host data []
      ⟨.ok [("balance", .leaf true), ("note", .leaf false), ("limit", .leaf false)], [(0, 2)],
        [called (.int 5), told, called (.int 9)]⟩ := by
  intro host data first second called told
  have distinct : ((first ++ second).map (·.1)).Nodup := by decide
  obtain ⟨one, two, whole, built, built', together, front, found, -, both⟩ :=
    fields_judged_apart first second distinct validatorLogger host data []
  cases built .plain
  cases built' .plain
  cases (built_together validatorLogger distinct .plain).symm.trans (together .plain)
  rw [Validator.finds_iff] at found
  cases found
  obtain ⟨back, found', judged, between⟩ := both _ rfl
  rw [Validator.finds_iff] at found'
  cases found'
  obtain ⟨single, wider, own, built, around, found, -, same⟩ := between "note" (.int 7) (by decide)
  cases built .plain
  cases (built_together validatorLogger (by decide) .plain).symm.trans (around .plain)
  rw [Validator.finds_iff] at found
  cases found
  exact ⟨distinct, judged, same _ rfl rfl⟩

end FieldSequence
end RecordSchema
