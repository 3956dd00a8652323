import RecordSchema.Proofs.Acceptance
import RecordSchema.Proofs.SchemaWalk
import RecordSchema.Walkthrough

/-! Verdicts along key paths. A key path leads through nested rules of a schema
to a rule of another kind, and the same keys walk through the records in the
value that is judged. What the report has at the path is settled by that walk:
a failure where something stands in its way, and otherwise a leaf that says
whether what the walk reaches passes the rule.

The run comes first: from every state it returns a report that the schema yields
for the record, a relation that knows nothing of states and logs. What the
report has at a path is then read off that relation. -/
namespace RecordSchema

/-- What stands at a key path of a verdict. -/
def Verdict.at? : Verdict → List String → Option Verdict
  | verdict, [] => some verdict
  | .leaf _, _ :: _ => none
  | .branch fields, key :: keys => match fields.lookup key with
    | some verdict => verdict.at? keys
    | none => none
termination_by structural _ keys => keys

/-- What stands at a key path of a report. -/
def Report.at? (report : Report) (keys : List String) : Option Verdict := (Verdict.branch report).at? keys

/-- A value that is in the way of a nested rule: something is there, and it is
no record. -/
def Value.Obstructs (v : Value) : Prop := v ≠ .undefined ∧ ∀ kind entries, v ≠ .mapping kind entries

/-- The record that a walk enters at a key, unless a value is in its way. -/
inductive Value.Opens : Option Value → List (String × Value) → Prop where
  | absent : Value.Opens none []
  | undefined : Value.Opens (some .undefined) []
  | mapping (kind : MappingKind) (entries : List (String × Value)) :
      Value.Opens (some (.mapping kind entries)) entries

/-- The slot that a walk along keys reaches in a record. Every key but the last
one has to open a record. -/
inductive Value.Reaches : List (String × Value) → List String → Option Value → Prop where
  | last (entries : List (String × Value)) (key : String) : Value.Reaches entries [key] (entries.lookup key)
  | inside {entries inner : List (String × Value)} {key : String} {keys : List String} {slot : Option Value}
      (opens : Value.Opens (entries.lookup key) inner) (rest : Value.Reaches inner keys slot) :
      Value.Reaches entries (key :: keys) slot

/-- The keys lead through nested rules of a schema to a rule of another kind. -/
inductive Schema.LeadsTo : Schema → List String → Rule → Prop where
  | last {fields : Schema} {key : String} {rule : Rule} (found : fields.lookup key = some rule)
      (plain : ∀ inner, rule ≠ .nested inner) : Schema.LeadsTo fields [key] rule
  | inside {fields inner : Schema} {key : String} {keys : List String} {rule : Rule}
      (found : fields.lookup key = some (.nested inner)) (rest : Schema.LeadsTo inner keys rule) :
      Schema.LeadsTo fields (key :: keys) rule

/-- The comparisons that judging a record makes, at any depth that it walks to. -/
inductive Schema.Compares (passes : Callable → Value → Bool) :
    Schema → List (String × Value) → Value → Value → Prop where
  | field {fields : Schema} {entries : List (String × Value)} {key : String} {rule : Rule} {v left right : Value}
      (member : (key, rule) ∈ fields) (found : entries.lookup key = some v)
      (compared : rule.Compares passes v left right) : Schema.Compares passes fields entries left right
  | inside {fields inner : Schema} {entries record : List (String × Value)} {key : String} {left right : Value}
      (member : (key, .nested inner) ∈ fields) (opens : Value.Opens (entries.lookup key) record)
      (below : Schema.Compares passes inner record left right) : Schema.Compares passes fields entries left right

mutual
/-- The verdict that a rule yields for the slot under its key. -/
inductive Rule.Yields (passes : Callable → Value → Bool) : Rule → Option Value → Verdict → Prop where
  | leaf {rule : Rule} {slot : Option Value} {passed : Bool} (plain : ∀ inner, rule ≠ .nested inner)
      (agrees : passed = true ↔ rule.PassesAt passes slot) : Rule.Yields passes rule slot (.leaf passed)
  | branch {fields : Schema} {slot : Option Value} {entries : List (String × Value)} {report : Report}
      (opens : Value.Opens slot entries) (below : Schema.Yields passes fields entries report) :
      Rule.Yields passes (.nested fields) slot (.branch report)
  | refused {fields : Schema} {v : Value} (obstructs : v.Obstructs) :
      Rule.Yields passes (.nested fields) (some v) (.leaf false)

/-- The report that fields yield for a record, field by field. -/
inductive Schema.Yields (passes : Callable → Value → Bool) : Schema → List (String × Value) → Report → Prop where
  | nil (entries : List (String × Value)) : Schema.Yields passes [] entries []
  | cons {key : String} {rule : Rule} {rest : Schema} {entries : List (String × Value)} {verdict : Verdict}
      {report : Report} (first : Rule.Yields passes rule (entries.lookup key) verdict)
      (others : Schema.Yields passes rest entries report) :
      Schema.Yields passes ((key, rule) :: rest) entries ((key, verdict) :: report)
end

namespace PathVerdicts

variable {σ : Type} {judge : Judge σ} {passes : Callable → Value → Bool} {path key : String}
  {keys front back : List String} {slot : Option Value} {v : Value} {entries : List (String × Value)}
  {rule : Rule} {fields : Schema} {report : Report}

theorem record_opens : Judge.record? slot = some entries ↔ Value.Opens slot entries := by
  constructor
  · intro record
    cases slot with
    | none =>
      cases record
      exact .absent
    | some v =>
      cases v with
      | undefined =>
        cases record
        exact .undefined
      | mapping kind inner =>
        cases record
        exact .mapping kind _
      | _ => cases record
  · rintro (_ | _ | _) <;> rfl

theorem record_obstructed : Judge.record? slot = none ↔ ∃ v, slot = some v ∧ v.Obstructs := by
  constructor
  · intro refused
    cases slot with
    | none => cases refused
    | some v =>
      refine ⟨v, rfl, ?_, ?_⟩
      · rintro rfl
        cases refused
      · rintro kind entries rfl
        cases refused
  · rintro ⟨v, rfl, bound, plain⟩
    cases v with
    | undefined => exact absurd rfl bound
    | mapping kind entries => exact absurd rfl (plain kind entries)
    | _ => rfl

/-! ## The run -/

theorem compares_rest {left right : Value} {rest : Schema}
    (compared : Schema.Compares passes rest entries left right) :
    Schema.Compares passes ((key, rule) :: rest) entries left right := by
  cases compared with
  | field member found compared => exact .field (List.mem_cons_of_mem _ member) found compared
  | inside member opens below => exact .inside (List.mem_cons_of_mem _ member) opens below

theorem field_parts {part : Rule} (member : (key, rule) ∈ fields) (inside : part ∈ rule.parts) :
    part ∈ Schema.parts fields := by
  induction fields with
  | nil => cases member
  | cons field rest ih =>
    rw [Schema.parts, List.mem_append]
    rcases List.mem_cons.mp member with rfl | below
    · exact .inl inside
    · exact .inr (ih below)

private theorem rest_parts {rest : Schema} {part : Rule} (inside : part ∈ Schema.parts rest) :
    part ∈ Schema.parts ((key, rule) :: rest) :=
  List.mem_append_right _ inside

/-- One field and the others after it, each from every state. -/
theorem judge_fields_cons_yields {rest : Schema}
    (first : ∀ state, ∃ verdict, (judge.judgeField (extendPath defaultSeparator path key) (entries.lookup key)
      rule state).result = .ok verdict ∧ Rule.Yields passes rule (entries.lookup key) verdict)
    (others : ∀ state, ∃ report, (judge.judgeFields path entries rest state).result = .ok report ∧
      Schema.Yields passes rest entries report) (state : σ) :
    ∃ report, (judge.judgeFields path entries ((key, rule) :: rest) state).result = .ok report ∧
      Schema.Yields passes ((key, rule) :: rest) entries report := by
  obtain ⟨verdict, judged, yields⟩ := first state
  obtain ⟨report, below, yields'⟩ := others _
  exact ⟨_, Judge.judge_fields_cons_returns.mpr ⟨verdict, report, judged, below, rfl⟩, .cons yields yields'⟩

/-- From every state, judging a record by sound fields returns a report that
the fields yield for the record. -/
theorem judge_fields_yields (fields : Schema) (sound : Schema.isSound fields = true)
    (answers : ∀ callee, .predicate callee ∈ Schema.parts fields → judge.host.Answers callee (passes callee))
    (whole : ∀ left right, Schema.Compares passes fields entries left right →
      left.Comparable ∧ right.Comparable) (path : String) (state : σ) :
    ∃ report, (judge.judgeFields path entries fields state).result = .ok report ∧
      Schema.Yields passes fields entries report := by
  induction fields using Schema.induction generalizing entries path state with
  | nil => exact ⟨[], rfl, .nil entries⟩
  | leaf key rule rest leaf ih =>
    simp only [Schema.isSound, Bool.and_eq_true] at sound
    have others := ih sound.2 (fun callee part => answers callee (rest_parts part))
      fun left right compared => whole left right (compares_rest compared)
    refine judge_fields_cons_yields (fun state => ?_) (others path) state
    have decided : (judge.judgeLeaf (extendPath defaultSeparator path key) (entries.lookup key) rule).Decides
        (rule.PassesAt passes (entries.lookup key)) :=
      Acceptance.judge_leaf_decides (Rule.leaf_plain leaf) sound.1
        (fun callee part => answers callee (field_parts List.mem_cons_self part))
        fun v found left right compared => whole left right (.field List.mem_cons_self found compared)
    obtain ⟨passed, returned, agrees⟩ := decided state
    rw [Judge.judge_field_leaf leaf]
    exact ⟨.leaf passed, Action.map_returns.mpr ⟨passed, returned, rfl⟩, .leaf (Rule.leaf_plain leaf) agrees⟩
  | broken key fault rest ih => simp [Schema.isSound, Rule.isSound] at sound
  | nested key inner rest inside after =>
    simp only [Schema.isSound, Rule.isSound, Bool.and_eq_true] at sound
    have others := after sound.2 (fun callee part => answers callee (rest_parts part))
      fun left right compared => whole left right (compares_rest compared)
    refine judge_fields_cons_yields (fun state => ?_) (others path) state
    cases record : Judge.record? (entries.lookup key) with
    | none =>
      obtain ⟨v, found, obstructs⟩ := record_obstructed.mp record
      rw [Judge.judge_field_refused record, found]
      exact ⟨.leaf false, rfl, .refused obstructs⟩
    | some inner =>
      have opens := record_opens.mp record
      obtain ⟨report, returned, yields⟩ := inside sound.1
        (fun callee part => answers callee (field_parts List.mem_cons_self part))
        (fun left right compared => whole left right (.inside List.mem_cons_self opens compared))
        (extendPath defaultSeparator path key) state
      rw [Judge.judge_field_record record]
      exact ⟨.branch report, Action.map_returns.mpr ⟨report, returned, rfl⟩, .branch opens yields⟩

/-! ## The report along a path -/

/-- What a report that is yielded has under a key is yielded by the rule there. -/
theorem verdict_found (yields : Schema.Yields passes fields entries report)
    (found : fields.lookup key = some rule) :
    ∃ verdict, report.lookup key = some verdict ∧ Rule.Yields passes rule (entries.lookup key) verdict := by
  induction fields generalizing report with
  | nil => cases found
  | cons field rest ih =>
    obtain ⟨name, first⟩ := field
    cases yields with
    | cons yields others =>
      rw [List.lookup_cons] at found ⊢
      cases same : key == name with
      | true =>
        simp only [same, Option.some.injEq] at found ⊢
        rw [eq_of_beq same, ← found]
        exact ⟨_, rfl, yields⟩
      | false =>
        simp only [same] at found ⊢
        exact ih others found

theorem at_key {verdict : Verdict} (found : report.lookup key = some verdict) :
    report.at? (key :: keys) = verdict.at? keys := by
  simp [Report.at?, Verdict.at?, found]

theorem leads_inside (led : fields.LeadsTo (key :: keys) rule) (further : keys ≠ []) :
    ∃ inner, fields.lookup key = some (.nested inner) ∧ Schema.LeadsTo inner keys rule := by
  cases led with
  | last => exact absurd rfl further
  | inside found rest => exact ⟨_, found, rest⟩

/-- A nested rule has a branch of the report for a record that opens, and a
failure for a value that is in the way. -/
theorem nested_yields {inner : Schema} {verdict : Verdict}
    (yields : Rule.Yields passes (.nested inner) slot verdict) :
    (∃ record report, Value.Opens slot record ∧ verdict = .branch report ∧
      Schema.Yields passes inner record report) ∨
    ∃ v, slot = some v ∧ v.Obstructs ∧ verdict = .leaf false := by
  cases yields with
  | leaf plain => exact absurd rfl (plain inner)
  | branch opens below => exact .inl ⟨_, _, opens, rfl, below⟩
  | refused obstructs => exact .inr ⟨_, rfl, obstructs, rfl⟩

theorem plain_yields {verdict : Verdict} (plain : ∀ inner, rule ≠ .nested inner)
    (yields : Rule.Yields passes rule slot verdict) :
    ∃ passed, verdict = .leaf passed ∧ (passed = true ↔ rule.PassesAt passes slot) := by
  cases yields with
  | leaf _ agrees => exact ⟨_, rfl, agrees⟩
  | branch | refused => exact absurd rfl (plain _)

theorem opens_unique {other : List (String × Value)} (opens : Value.Opens slot entries)
    (opens' : Value.Opens slot other) : entries = other := by
  rw [← record_opens] at opens opens'
  exact Option.some.inj (opens.symm.trans opens')

theorem obstructed_closed (obstructs : v.Obstructs) : ¬ Value.Opens (some v) entries := by
  intro opens
  have refused := record_obstructed.mpr ⟨v, rfl, obstructs⟩
  rw [record_opens.mpr opens] at refused
  cases refused

/-- Where a value is in the way, the report has a failure and nothing below. -/
theorem obstructed_verdict (yields : Schema.Yields passes fields entries report)
    (led : fields.LeadsTo (front ++ back) rule) (unfinished : back ≠ [])
    (reached : Value.Reaches entries front (some v)) (obstructs : v.Obstructs) :
    report.at? front = some (.leaf false) ∧ ∀ below, below ≠ [] → report.at? (front ++ below) = none := by
  generalize slotted : some v = slot at reached
  induction reached generalizing fields report with
  | last entries key =>
    obtain ⟨inner, found, -⟩ := leads_inside led unfinished
    obtain ⟨verdict, placed, yielded⟩ := verdict_found yields found
    rw [← slotted] at yielded
    obtain ⟨record, _, opens, -⟩ | ⟨_, -, -, rfl⟩ := nested_yields yielded
    · exact absurd opens (obstructed_closed obstructs)
    · refine ⟨at_key placed, fun below longer => ?_⟩
      obtain ⟨next, further, rfl⟩ := List.exists_cons_of_ne_nil longer
      exact at_key placed
  | inside opens deeper ih =>
    obtain ⟨inner, found, rest⟩ := leads_inside led (by simp [unfinished])
    obtain ⟨verdict, placed, yielded⟩ := verdict_found yields found
    obtain ⟨record, report', opens', rfl, below⟩ | ⟨w, filled, obstructs', -⟩ := nested_yields yielded
    · cases opens_unique opens opens'
      obtain ⟨failed, nothing⟩ := ih below rest slotted
      exact ⟨(at_key placed).trans failed, fun below longer => (at_key placed).trans (nothing below longer)⟩
    · rw [filled] at opens
      exact absurd opens (obstructed_closed obstructs')

/-- Where nothing is in the way, the walk reaches a slot, and the report says
at the path whether the slot passes the rule. -/
theorem unobstructed_verdict (yields : Schema.Yields passes fields entries report)
    (led : fields.LeadsTo keys rule)
    (free : ∀ front back v, keys = front ++ back → back ≠ [] → Value.Reaches entries front (some v) →
      ¬ v.Obstructs) :
    ∃ slot passed, Value.Reaches entries keys slot ∧ report.at? keys = some (.leaf passed) ∧
      (passed = true ↔ rule.PassesAt passes slot) := by
  induction led generalizing entries report with
  | @last fields key rule found plain =>
    obtain ⟨verdict, placed, yielded⟩ := verdict_found yields found
    obtain ⟨passed, rfl, agrees⟩ := plain_yields plain yielded
    exact ⟨_, passed, .last entries key, at_key placed, agrees⟩
  | @inside fields inner key keys rule found rest ih =>
    obtain ⟨verdict, placed, yielded⟩ := verdict_found yields found
    obtain ⟨record, report', opens, rfl, below⟩ | ⟨w, filled, obstructs, -⟩ := nested_yields yielded
    · obtain ⟨slot, passed, reached, placed', agrees⟩ := ih below fun front back v split unfinished reached =>
        free (key :: front) back v (by rw [split]; rfl) unfinished (.inside opens reached)
      exact ⟨slot, passed, .inside opens reached, (at_key placed).trans placed', agrees⟩
    · have further : keys ≠ [] := by
        rintro rfl
        cases rest
      exact absurd obstructs (free [key] keys w rfl further (filled ▸ .last entries key))

/-- The report of a validator, path by path. The validator is built from an
authored schema in which rule objects built by hand, if any, are sound; calls
answer by their argument alone; and no comparison that is made meets a missing
cell or a signalling decimal. Then from every state a report is returned. For
every path that leads to a rule, if the walk along the path meets a value that is
in the way of a nested rule, the report has a failure there and nothing below; and
if it meets none, the report has a leaf at the whole path, which is true exactly
if what the walk reaches passes the rule. What is in the way ends a walk, so it is
never met behind another such value. -/
theorem verdict_along_path {authored : Value} {logger : String} {validator : Validator}
    (built : Validator.ofAuthored authored logger = .ok validator)
    (sound : Value.haveSoundRules (authored.entries?.getD []) = true) (host : Host σ)
    (passes : Callable → Value → Bool)
    (answers : ∀ callee, .predicate callee ∈ Schema.parts validator.schema → host.Answers callee (passes callee))
    (data : Value)
    (whole : ∀ left right, Schema.Compares passes validator.schema (data.entries?.getD []) left right →
      left.Comparable ∧ right.Comparable) (state : σ) :
    ∃ report, (validator.validate host data state).result = .ok report ∧
      ∀ path rule, validator.schema.LeadsTo path rule →
        (∀ front back v, path = front ++ back → back ≠ [] →
          Value.Reaches (data.entries?.getD []) front (some v) → v.Obstructs →
            report.at? front = some (.leaf false) ∧
            ∀ below, below ≠ [] → report.at? (front ++ below) = none) ∧
        ((∀ front back v, path = front ++ back → back ≠ [] →
          Value.Reaches (data.entries?.getD []) front (some v) → ¬ v.Obstructs) →
            ∃ slot passed, Value.Reaches (data.entries?.getD []) path slot ∧
              report.at? path = some (.leaf passed) ∧ (passed = true ↔ rule.PassesAt passes slot)) := by
  have judged : ∃ report, ((validator.judge host).judgeFields "" (data.entries?.getD []) validator.schema
      state).result = .ok report ∧ Schema.Yields passes validator.schema (data.entries?.getD []) report :=
    judge_fields_yields validator.schema (RuleSoundness.validator_sound built sound) answers whole "" state
  obtain ⟨report, returned, yields⟩ := judged
  refine ⟨report, Judge.validate_returns.mpr returned, fun path rule led => ⟨?_, unobstructed_verdict yields led⟩⟩
  rintro front back v rfl unfinished reached obstructs
  exact obstructed_verdict yields led unfinished reached obstructs

/-- A record and literals that can be compared meet no others in comparisons, at
whatever depth. -/
theorem comparisons_comparable {left right : Value} (compared : Schema.Compares passes fields entries left right)
    (listed : ∀ literals, .enumeration literals ∈ Schema.parts fields → ∀ literal ∈ literals, literal.Comparable)
    (comparable : ∀ entry ∈ entries, entry.2.Comparable) : left.Comparable ∧ right.Comparable := by
  induction compared with
  | field member found compared =>
    exact Acceptance.compares_comparable compared (fun literals part => listed literals (field_parts member part))
      (Comparison.comparable_entry comparable found)
  | @inside fields inner entries record key left right member opens below ih =>
    refine ih (fun literals part => listed literals (field_parts member part)) ?_
    generalize found : entries.lookup key = slot at opens
    cases opens with
    | absent | undefined => nofun
    | mapping kind record => exact Comparison.comparable_entries (Comparison.comparable_entry comparable found)

/-- The two predicates of the walkthrough are all that is called in it. -/
theorem walkthrough_callees {callee : Callable}
    (mentioned : .predicate callee ∈ Schema.parts Walkthrough.validator.schema) :
    callee = Walkthrough.isPositive ∨ callee = Walkthrough.isDigits := by
  have parts : (Schema.parts Walkthrough.validator.schema).filter (·.kind? == some .predicate) =
      [.predicate Walkthrough.isPositive, .predicate Walkthrough.isDigits] := rfl
  have either : .predicate callee ∈ (Schema.parts Walkthrough.validator.schema).filter (·.kind? == some .predicate) :=
    List.mem_filter.mpr ⟨mentioned, rfl⟩
  rw [parts] at either
  simpa only [List.mem_cons, Rule.predicate.injEq, List.not_mem_nil, or_false] using either

/-- In the walkthrough an address that is a text is in the way of the rules
below it, while the status is reached. The two predicates are taken to be total here. -/
theorem walkthrough_verdicts :
    let data := Value.mapping .plain [("status", .text "active"), ("address", .text "London")]
    let host := Catalogue.host [.hasKind "number", .digits]
    let passes : Callable → Value → Bool := fun callee v =>
      if callee = Walkthrough.isPositive then v.kind.name == "number" else Behaviour.isDigits v
    let literals := [.text "active", .text "suspended", .member "Status" .plain "ACTIVE" (.text "active"),
      .member "Status" .plain "SUSPENDED" (.text "suspended")]
    ∃ report, (Walkthrough.validator.validate host data []).result = .ok report ∧
      report.at? ["address"] = some (.leaf false) ∧ report.at? ["address", "zip"] = none ∧
      ∃ slot passed, Value.Reaches (data.entries?.getD []) ["status"] slot ∧
        report.at? ["status"] = some (.leaf passed) ∧
        (passed = true ↔ (Rule.enumeration literals).PassesAt passes slot) := by
  intro data host passes literals
  have parts : Schema.parts Walkthrough.validator.schema = [.primitive .string, .enumeration literals,
    .primitive .number, .predicate Walkthrough.isPositive, .primitive .string, .primitive .undefined,
    .primitive .string, .predicate Walkthrough.isDigits] := rfl
  have answers : ∀ callee, .predicate callee ∈ Schema.parts Walkthrough.validator.schema →
      host.Answers callee (passes callee) := by
    intro callee mentioned v state
    rcases walkthrough_callees mentioned with rfl | rfl
    · exact ⟨_, rfl, rfl⟩
    · exact ⟨_, rfl, rfl⟩
  have whole : ∀ left right,
      Schema.Compares passes Walkthrough.validator.schema (data.entries?.getD []) left right →
        left.Comparable ∧ right.Comparable := by
    refine fun left right compared => comparisons_comparable compared (fun listed part => ?_) ?_
    · rw [parts] at part
      simp only [List.mem_cons, Rule.enumeration.injEq, reduceCtorEq, false_or, List.not_mem_nil, or_false] at part
      subst part
      simp [literals, Value.Comparable, Value.refusal?]
    · simp [data, Value.entries?, Value.Comparable, Value.refusal?]
  have built : Validator.ofAuthored (.mapping .plain Walkthrough.fields) validatorLogger =
      .ok Walkthrough.validator := rfl
  obtain ⟨report, returned, along⟩ := verdict_along_path built rfl host passes answers data whole []
  obtain ⟨failed, nothing⟩ := (along ["address", "zip"] (.predicate Walkthrough.isDigits)
    (.inside rfl (.last rfl (by simp)))).1 ["address"] ["zip"] (.text "London") rfl (by simp)
      (.last (data.entries?.getD []) "address") ⟨by simp, by simp⟩
  refine ⟨report, returned, failed, nothing ["zip"] (by simp), ?_⟩
  have status := (along ["status"] (.enumeration literals) (.last rfl (by simp))).2
  refine status fun front back v split unfinished reached => ?_
  cases front with
  | nil => cases reached
  | cons key front =>
    simp only [List.cons_append, List.cons.injEq, List.nil_eq, List.append_eq_nil_iff] at split
    exact absurd split.2.2 unfinished

/-- No report is returned where a signalling decimal is looked for among literals that are decimals,
though nothing is called and no cell is missing. -/
theorem signalling_decimal_unreported :
    let literal := Value.decimal (.finite false 1 0)
    let authored := Value.mapping .plain [("a", .mapping .plain [(enumKey, .list [literal])])]
    let validator : Validator := ⟨[("a", .rule .enumeration (.tuple [literal]))], validatorLogger⟩
    let cell := Value.decimal (.nan true false none)
    let data := Value.mapping .plain [("a", cell)]
    Validator.ofAuthored authored validatorLogger = .ok validator ∧
    Value.haveSoundRules (authored.entries?.getD []) = true ∧
    validator.schema.LeadsTo ["a"] (.enumeration [literal]) ∧
    Schema.parts validator.schema = [.enumeration [literal]] ∧ literal ≠ .missing ∧ cell ≠ .missing ∧
    (validator.validate CommandLine.noCalls data ()).result = .error .signalled := by
  intro literal authored validator cell data
  exact ⟨rfl, rfl, .last rfl (by simp), rfl, by simp [literal], by simp [cell], rfl⟩

end PathVerdicts
end RecordSchema
