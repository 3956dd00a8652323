import RecordSchema.Proofs.AbsentRecords
import RecordSchema.Proofs.CompositeMembers
import RecordSchema.Proofs.PathVerdicts

/-! Keys that are bound to no value. A key may be left out of a record or bound to the mark
that stands for no value. Both leave a nested rule with an empty record, and a tag with
nothing of its type. Only what looks at the mark itself can tell them apart: a predicate, a
composite, and an enumeration that lists the mark; without the key each of these fails. So
keys bound to no value may be dropped from a record, at every depth that is judged, and
the report changes at most there. -/
namespace RecordSchema

variable {σ τ : Type}

mutual
/-- A value without the keys that are bound to no value, as far as a rule looks into it: such
keys of its fields go, and what other fields hold is treated alike. -/
def Value.dropUnbound (rule : Rule) : Value → Value
  | .mapping kind entries => match rule with
    | .nested fields => .mapping kind (Value.dropUnboundEntries fields entries)
    | _ => .mapping kind entries
  | v => v
termination_by structural v => v

/-- Entries without the keys of fields that are bound to no value. -/
def Value.dropUnboundEntries (fields : Schema) : List (String × Value) → List (String × Value)
  | [] => []
  | (key, v) :: rest => match fields.lookup key with
    | none => (key, v) :: Value.dropUnboundEntries fields rest
    | some own =>
      if v.kind = .undefined then Entries.erase key (Value.dropUnboundEntries fields rest)
      else (key, v.dropUnbound own) :: Value.dropUnboundEntries fields rest
termination_by structural entries => entries
end

/-- A slot without a key in it that is bound to no value, as far as a rule looks into it. -/
def Rule.dropSlot (rule : Rule) (slot : Option Value) : Option Value :=
  slot.bind fun v => if v.kind = .undefined then none else some (v.dropUnbound rule)

/-- The rules that look at the mark of no value itself. -/
inductive Rule.HeedsUnbound : Rule → Prop where
  | predicate (callee : Callable) : Rule.HeedsUnbound (.predicate callee)
  | composite (members : List Rule) : Rule.HeedsUnbound (.composite members)
  | enumeration {literals : List Value} (listed : .undefined ∈ literals) : Rule.HeedsUnbound (.enumeration literals)

mutual
/-- How the verdicts of a rule compare on a slot and on what is left of it when keys bound
to no value are dropped. They have one shape, and leaves are the same, unless the slot
is bound to no value and the rule heeds that: then the second leaf fails. -/
inductive Rule.DropsAlike : Rule → Option Value → Verdict → Verdict → Prop where
  | same {rule : Rule} {slot : Option Value} (unheeded : slot = some .undefined → ¬rule.HeedsUnbound) (passed : Bool) :
      Rule.DropsAlike rule slot (.leaf passed) (.leaf passed)
  | heeded {rule : Rule} (heeds : rule.HeedsUnbound) (passed : Bool) :
      Rule.DropsAlike rule (some .undefined) (.leaf passed) (.leaf false)
  | branch {fields : Schema} {slot : Option Value} {entries : List (String × Value)} {report report' : Report}
      (opens : Value.Opens slot entries) (below : Schema.DropsAlike fields entries report report') :
      Rule.DropsAlike (.nested fields) slot (.branch report) (.branch report')

/-- How the reports of fields compare on entries and on what is left of them, field by field. -/
inductive Schema.DropsAlike : Schema → List (String × Value) → Report → Report → Prop where
  | nil (entries : List (String × Value)) : Schema.DropsAlike [] entries [] []
  | cons {key : String} {rule : Rule} {rest : Schema} {entries : List (String × Value)} {verdict verdict' : Verdict}
      {report report' : Report} (first : Rule.DropsAlike rule (entries.lookup key) verdict verdict')
      (others : Schema.DropsAlike rest entries report report') :
      Schema.DropsAlike ((key, rule) :: rest) entries ((key, verdict) :: report) ((key, verdict') :: report')
end

/-- Two actions end in related ways, whatever the states that they come in: both return, with
results that are related, or both fail with the same fault. -/
def Action.EndRelated {α β : Type} (related : α → β → Prop) (first : Action σ α) (second : Action τ β) : Prop :=
  ∀ state state',
    (∃ a b, (first state).result = .ok a ∧ (second state').result = .ok b ∧ related a b) ∨
    ∃ fault, (first state).result = .error fault ∧ (second state').result = .error fault

/-- An action has one answer, whatever the state. Unless the rule heeds the mark of no value, it
is the answer on an absent field. -/
def Rule.SettlesUnbound (rule : Rule) (action : Action σ Bool) : Prop :=
  ∃ passed, action.Settles passed ∧ (¬rule.HeedsUnbound → passed = rule.asksAbsence)

namespace UnboundKeys

variable {judge : Judge σ} {passes : Callable → Value → Bool} {path key : String} {rule : Rule} {fields : Schema}
  {entries entries' : List (String × Value)} {slot : Option Value} {v : Value}

/-! ## Ends that are related -/

section EndRelated

variable {α β α' β' : Type} {related : α → β → Prop} {related' : α' → β' → Prop} {first : Action σ α}
  {second : Action τ β}

theorem settled_related {a : α} {b : β} (settled : first.Settles a) (settled' : second.Settles b) (same : related a b) :
    first.EndRelated related second :=
  fun state state' => .inl ⟨a, b, settled state, settled' state', same⟩

theorem alike_related {related : α → α → Prop} {second : Action τ α} (alike : first.EndAlike second)
    (each : ∀ a, related a a) : first.EndRelated related second := by
  intro state state'
  rw [← alike state state']
  cases (first state).result with
  | ok a => exact .inl ⟨a, a, rfl, rfl, each a⟩
  | error fault => exact .inr ⟨fault, rfl, rfl⟩

theorem related_mapped {f : α → α'} {g : β → β'} (ends : first.EndRelated related second)
    (each : ∀ a b, related a b → related' (f a) (g b)) : (f <$> first).EndRelated related' (g <$> second) := by
  intro state state'
  rw [Action.map_run, Action.map_run]
  obtain ⟨a, b, returned, returned', same⟩ | ⟨fault, failed, failed'⟩ := ends state state'
  · rw [returned, returned']
    exact .inl ⟨f a, g b, rfl, rfl, each a b same⟩
  · rw [failed, failed']
    exact .inr ⟨fault, rfl, rfl⟩

theorem related_sequence {next : α → Action σ α'} {next' : β → Action τ β'} (head : first.EndRelated related second)
    (tail : ∀ a b, related a b → (next a).EndRelated related' (next' b)) :
    (first >>= next).EndRelated related' (second >>= next') := by
  intro state state'
  rcases ran : first state with ⟨result, middle, events⟩
  rcases ran' : second state' with ⟨result', middle', events'⟩
  have start := head state state'
  rw [ran, ran'] at start
  obtain ⟨a, b, rfl, rfl, same⟩ | ⟨fault, rfl, rfl⟩ := start
  · rw [Action.bind_of_ok ran, Action.bind_of_ok ran']
    exact tail a b same middle middle'
  · rw [Action.bind_of_error ran, Action.bind_of_error ran']
    exact .inr ⟨fault, rfl, rfl⟩

end EndRelated

/-! ## What is dropped -/

theorem kind_undefined : v.kind = .undefined ↔ v = .undefined := by
  refine ⟨fun kind => ?_, fun same => same ▸ rfl⟩
  cases v with
  | undefined => rfl
  | member owner base name value => cases base <;> cases kind
  | _ => cases kind

theorem drop_plain (plain : ∀ inner, rule ≠ .nested inner) (v : Value) : v.dropUnbound rule = v := by
  cases v with
  | mapping kind entries =>
    cases rule with
    | nested inner => exact absurd rfl (plain inner)
    | _ => rfl
  | _ => rfl

/-- A slot that is bound to a value is left as it is by a rule that is not nested. -/
theorem drop_slot_plain (plain : ∀ inner, rule ≠ .nested inner) (bound : slot ≠ some .undefined) :
    rule.dropSlot slot = slot := by
  cases slot with
  | none => rfl
  | some v =>
    have other : v.kind ≠ .undefined := fun kind => bound (congrArg some (kind_undefined.mp kind))
    simp [Rule.dropSlot, other, drop_plain plain]

theorem drop_lookup (found : fields.lookup key = some rule) (entries : List (String × Value)) :
    (Value.dropUnboundEntries fields entries).lookup key = rule.dropSlot (entries.lookup key) := by
  induction entries with
  | nil => rfl
  | cons entry rest ih =>
    obtain ⟨name, v⟩ := entry
    rw [Value.dropUnboundEntries]
    by_cases same : key = name
    · subst same
      rw [found]
      by_cases unbound : v.kind = .undefined
      · simp [unbound, Entries.lookup_erase_self, Rule.dropSlot]
      · simp [unbound, Rule.dropSlot]
    · have other : (key == name) = false := beq_false_of_ne same
      rw [List.lookup_cons, other]
      simp only
      cases fields.lookup name with
      | none =>
        rw [List.lookup_cons, other]
        exact ih
      | some rule' =>
        by_cases unbound : v.kind = .undefined
        · simp only [unbound, if_true]
          rw [Entries.lookup_erase_other same, ih]
        · simp only [unbound, if_false]
          rw [List.lookup_cons, other]
          exact ih

/-! ## The mark of no value -/

theorem unbound_equal (literal : Value) :
    ∃ b, Value.strictEqual .undefined literal = .ok b ∧ (b = true ↔ literal = .undefined) := by
  by_cases kind : literal.kind = .undefined
  · cases kind_undefined.mp kind
    exact ⟨true, rfl, by simp⟩
  · have differs : (Value.undefined : Value).kind ≠ literal.kind := Ne.symm kind
    refine ⟨false, by rw [Value.strictEqual, if_pos differs], ?_⟩
    simp [← kind_undefined, kind]

/-- The mark of no value is among literals if it is one of them. Since it has a kind of its own,
no comparison with it is refused. -/
theorem unbound_among (literals : List Value) :
    ∃ b, Value.isAmong .undefined literals = .ok b ∧ (b = true ↔ .undefined ∈ literals) := by
  have determined : ∀ earlier literal later, literals = earlier ++ literal :: later →
      (∀ other ∈ earlier, Value.strictEqual .undefined other = .ok false) →
        ∃ b, Value.strictEqual .undefined literal = .ok b := by
    intro _ literal _ _ _
    obtain ⟨b, compared, -⟩ := unbound_equal literal
    exact ⟨b, compared⟩
  obtain ⟨b, among, found⟩ := Comparison.among_literals determined
  refine ⟨b, among, found.trans ⟨?_, fun listed => ⟨.undefined, listed, rfl⟩⟩⟩
  rintro ⟨literal, listed, equal⟩
  obtain ⟨b, compared, same⟩ := unbound_equal literal
  rw [compared] at equal
  exact same.mp (Except.ok.inj equal) ▸ listed

/-- What heeds the mark of no value does not ask for absence. -/
theorem heeding_asks_value (heeds : rule.HeedsUnbound) : rule.asksAbsence = false := by
  cases heeds <;> rfl

/-! ## Slots of other rules -/

/-- Runs of a judge whose calls answer by their arguments end alike. -/
def sameAnswers (judge : Judge σ) (passes : Callable → Value → Bool) :
    judge.Likeness judge fun callee => judge.host.Answers callee (passes callee) where
  __ := RunHistories.sameResults judge judge
  calls callee v answers := by
    have decides : (judge.holds callee v).Decides (passes callee v = true) := Acceptance.holds_decides answers
    obtain ⟨passed, settled, -⟩ := RunHistories.decided_settles decides
    exact fun state state' => (settled state).trans (settled state').symm

section Leaf

variable (answers : ∀ callee, .predicate callee ∈ rule.parts → judge.host.Answers callee (passes callee))
include answers

theorem simple_settles (simple : rule.isSimple = true) (sound : rule.isSound = true) (path : String) :
    rule.SettlesUnbound (judge.checkSimple path rule .undefined) := by
  cases rule with
  | primitive tag =>
    refine ⟨tag.accepts .undefined, fun state => rfl, fun _ => ?_⟩
    cases tag <;> rfl
  | predicate callee =>
    have decides : (judge.holds callee .undefined).Decides (passes callee .undefined = true) :=
      Acceptance.holds_decides (answers callee (List.mem_singleton_self _))
    obtain ⟨passed, settled, -⟩ := RunHistories.decided_settles decides
    exact ⟨passed, settled, fun unheeded => absurd (.predicate callee) unheeded⟩
  | enumeration literals =>
    obtain ⟨b, among, listed⟩ := unbound_among literals
    refine ⟨b, fun state => ?_, fun unheeded => ?_⟩
    · rw [Judge.checkSimple, among]
      rfl
    · exact Bool.eq_false_iff.mpr fun passes => unheeded (.enumeration (listed.mp passes))
  | array item => exact ⟨false, fun state => rfl, fun _ => rfl⟩
  | composite | nested | unrecognized => cases simple
  | foreign | broken => cases sound

/-- A rule that is not nested has one verdict on the mark of no value. -/
theorem leaf_settles (leaf : rule.kind? ≠ some .nested) (sound : rule.isSound = true) (path : String) :
    rule.SettlesUnbound (judge.judgeLeaf path (some .undefined) rule) := by
  have of_simple (simple : rule.isSimple = true) :
      rule.SettlesUnbound (judge.judgeLeaf path (some .undefined) rule) := by
    have determined : rule ≠ .primitive .undetermined := by
      rintro rfl
      cases sound
    rw [CompositeMembers.judge_leaf_simple simple determined]
    exact simple_settles answers simple sound path
  cases rule with
  | composite members =>
    have each : ∀ member ∈ members, ∃ passed, (judge.checkMembers path [member] .undefined).Settles passed := by
      intro member among
      rw [CompositeMembers.check_single, Judge.checkMember]
      split
      next simple =>
        obtain ⟨passed, settled, -⟩ := simple_settles
          (fun callee part => answers callee (Acceptance.member_parts among part)) simple
          (RuleSoundness.member_sound sound among) path
        exact ⟨passed, settled⟩
      next complex => exact ⟨false, fun state => rfl⟩
    obtain ⟨passed, settled, -⟩ := CompositeMembers.members_settle each
    exact ⟨passed, settled, fun unheeded => absurd (.composite members) unheeded⟩
  | nested fields => exact absurd rfl leaf
  | unrecognized raw => exact ⟨false, fun state => rfl, fun _ => rfl⟩
  | foreign | broken => cases sound
  | _ => exact of_simple rfl

/-- The verdict on the mark of no value compares with the one on an absent field. -/
theorem leaf_unbound (leaf : rule.kind? ≠ some .nested) (sound : rule.isSound = true) (path : String) :
    (judge.judgeField path (some .undefined) rule).EndRelated (rule.DropsAlike (some .undefined))
      (judge.judgeField path none rule) := by
  obtain ⟨passed, settled, unheeded⟩ := leaf_settles answers leaf sound path
  have blank : (judge.judgeLeaf path none rule).Settles rule.asksAbsence := by
    rw [AbsentRecords.judge_leaf_absent sound]
    exact fun state => rfl
  have compared : rule.DropsAlike (some .undefined) (.leaf passed) (.leaf rule.asksAbsence) := by
    by_cases heeds : rule.HeedsUnbound
    · rw [heeding_asks_value heeds]
      exact .heeded heeds passed
    · rw [unheeded heeds]
      exact .same (fun _ => heeds) _
  have ends : (judge.judgeLeaf path (some .undefined) rule).EndRelated
      (fun a b => rule.DropsAlike (some .undefined) (.leaf a) (.leaf b)) (judge.judgeLeaf path none rule) :=
    settled_related settled blank compared
  rw [Judge.judge_field_leaf leaf, Judge.judge_field_leaf leaf]
  exact related_mapped ends fun a b same => same

/-- Any other slot is looked at as it is, both times from whatever state. -/
theorem leaf_bound (leaf : rule.kind? ≠ some .nested) (bound : slot ≠ some .undefined) (path : String) :
    (judge.judgeField path slot rule).EndRelated (rule.DropsAlike slot) (judge.judgeField path slot rule) := by
  have alike : (judge.judgeLeaf path slot rule).EndAlike (judge.judgeLeaf path slot rule) :=
    (sameAnswers judge passes).judge_leaf slot (fun _ _ _ _ => rfl) answers
  have ends : (judge.judgeLeaf path slot rule).EndRelated (fun a b => rule.DropsAlike slot (.leaf a) (.leaf b))
      (judge.judgeLeaf path slot rule) :=
    alike_related alike fun passed => .same (fun unbound => absurd unbound bound) passed
  rw [Judge.judge_field_leaf leaf]
  exact related_mapped ends fun a b same => same

/-- A rule that is not nested judges a slot and what is left of it alike. -/
theorem leaf_related (leaf : rule.kind? ≠ some .nested) (sound : rule.isSound = true) (path : String)
    (slot : Option Value) : (judge.judgeField path slot rule).EndRelated (rule.DropsAlike slot)
      (judge.judgeField path (rule.dropSlot slot) rule) := by
  by_cases unbound : slot = some .undefined
  · subst unbound
    exact leaf_unbound answers leaf sound path
  · rw [drop_slot_plain (Rule.leaf_plain leaf) unbound]
    exact leaf_bound answers leaf unbound path

end Leaf

/-! ## Slots of nested rules -/

theorem drop_opens {inner : Schema} (opens : Value.Opens slot entries) :
    Value.Opens ((Rule.nested inner).dropSlot slot) (Value.dropUnboundEntries inner entries) := by
  cases opens with
  | absent => exact .absent
  | undefined => exact .absent
  | mapping kind entries => exact .mapping kind _

theorem drop_obstructed {inner : Schema} (obstructs : v.Obstructs) :
    (Rule.nested inner).dropSlot (some v) = some v := by
  have other : v.kind ≠ .undefined := fun kind => obstructs.1 (kind_undefined.mp kind)
  have kept : v.dropUnbound (.nested inner) = v := by
    cases v with
    | mapping kind entries => exact absurd rfl (obstructs.2 kind entries)
    | _ => rfl
  simp [Rule.dropSlot, other, kept]

theorem refused_related {inner : Schema} (obstructs : v.Obstructs) (path : String) :
    (judge.judgeField path (some v) (.nested inner)).EndRelated ((Rule.nested inner).DropsAlike (some v))
      (judge.judgeField path ((Rule.nested inner).dropSlot (some v)) (.nested inner)) := by
  have refused : Judge.record? (some v) = none := PathVerdicts.record_obstructed.mpr ⟨v, rfl, obstructs⟩
  have unheeded : ¬(Rule.nested inner).HeedsUnbound := nofun
  rw [drop_obstructed obstructs, Judge.judge_field_refused refused]
  exact settled_related (fun state => rfl) (fun state => rfl) (.same (fun _ => unheeded) false)

/-! ## Fields -/

variable {rest : Schema}

theorem judge_fields_cons_related
    (first : (judge.judgeField (extendPath defaultSeparator path key) (entries.lookup key) rule).EndRelated
      (rule.DropsAlike (entries.lookup key))
      (judge.judgeField (extendPath defaultSeparator path key) (entries'.lookup key) rule))
    (others : (judge.judgeFields path entries rest).EndRelated (Schema.DropsAlike rest entries)
      (judge.judgeFields path entries' rest)) :
    (judge.judgeFields path entries ((key, rule) :: rest)).EndRelated (Schema.DropsAlike ((key, rule) :: rest) entries)
      (judge.judgeFields path entries' ((key, rule) :: rest)) := by
  rw [Judge.judgeFields, Judge.judgeFields]
  exact related_sequence first fun verdict verdict' alike =>
    related_mapped others fun report report' below => .cons alike below

/-- What is left of entries has the slots of the fields, each without the keys that are bound
to no value. -/
theorem left_slots (distinct : Schema.hasDistinctKeys fields = true) (entries : List (String × Value)) :
    ∀ key rule, (key, rule) ∈ fields →
      (Value.dropUnboundEntries fields entries).lookup key = rule.dropSlot (entries.lookup key) := by
  intro key rule member
  have nodup := NodePaths.distinct_keys_nodup fields distinct
  exact drop_lookup (Entries.lookup_of_mem nodup member) entries

/-- Fields are judged alike on entries and on what is left of them. The other entries matter
only by the slots that the fields look at. -/
theorem judge_fields_related (fields : Schema) (sound : Schema.isSound fields = true)
    (distinct : Schema.hasDistinctKeys fields = true)
    (answers : ∀ callee, .predicate callee ∈ Schema.parts fields → judge.host.Answers callee (passes callee))
    (left : ∀ key rule, (key, rule) ∈ fields → entries'.lookup key = rule.dropSlot (entries.lookup key))
    (path : String) : (judge.judgeFields path entries fields).EndRelated (Schema.DropsAlike fields entries)
      (judge.judgeFields path entries' fields) := by
  -- The walk goes on with fewer fields over the same entries, so what is left of these is known by
  -- its slots alone; it is a function of the fields only where a record is entered.
  induction fields using Schema.induction generalizing entries entries' path with
  | nil => exact settled_related (fun state => rfl) (fun state => rfl) (.nil entries)
  | leaf key rule rest leaf ih =>
    simp only [Schema.isSound, Schema.hasDistinctKeys, Bool.and_eq_true] at sound distinct
    have others := ih sound.2 distinct.2 (fun callee part => answers callee (List.mem_append_right _ part))
      (fun other rule member => left other rule (List.mem_cons_of_mem _ member)) path
    refine judge_fields_cons_related ?_ others
    rw [left key rule List.mem_cons_self]
    exact leaf_related (fun callee part => answers callee (List.mem_append_left _ part)) leaf sound.1 _ _
  | broken key fault rest ih => simp [Schema.isSound, Rule.isSound] at sound
  | nested key inner rest inside below =>
    simp only [Schema.isSound, Rule.isSound, Bool.and_eq_true] at sound
    simp only [Schema.hasDistinctKeys, Rule.hasDistinctKeys, Bool.and_eq_true] at distinct
    have others := below sound.2 distinct.2 (fun callee part => answers callee (List.mem_append_right _ part))
      (fun other rule member => left other rule (List.mem_cons_of_mem _ member)) path
    refine judge_fields_cons_related ?_ others
    rw [left key (.nested inner) List.mem_cons_self]
    cases record : Judge.record? (entries.lookup key) with
    | none =>
      obtain ⟨v, found, obstructs⟩ := PathVerdicts.record_obstructed.mp record
      rw [found]
      exact refused_related obstructs _
    | some held =>
      have opens := PathVerdicts.record_opens.mp record
      have left_open : Judge.record? ((Rule.nested inner).dropSlot (entries.lookup key)) =
          some (Value.dropUnboundEntries inner held) :=
        PathVerdicts.record_opens.mpr (drop_opens opens)
      have judged := inside sound.1 distinct.1.2 (fun callee part => answers callee (List.mem_append_left _ part))
        (left_slots distinct.1.2 held) (extendPath defaultSeparator path key)
      rw [Judge.judge_field_record record, Judge.judge_field_record left_open]
      exact related_mapped judged fun report report' below => .branch opens below

/-- Dropping the keys of a value that are bound to no value shows in its report only where such
a key is heeded. Take a schema that is authored with sound rule objects, has no key twice,
and whose predicates answer by their argument alone. For every value, judged once as it is
and once without the keys of the schema that are bound to no value, at the top and in
every record that a nested rule opens: both runs fail with the same fault, or they return
reports of one shape, and the leaves are the same, except where a key is bound to no
value and its rule is a predicate, a composite or an enumeration that lists the mark of no
value. Without the key that leaf fails. Where no comparison meets a missing cell or a
signalling decimal, the runs do return. -/
theorem unbound_keys_dropped {authored : Value} {logger : String} {validator : Validator}
    (built : Validator.ofAuthored authored logger = .ok validator)
    (sound : Value.haveSoundRules (authored.entries?.getD []) = true)
    (distinct : Schema.hasDistinctKeys validator.schema = true) (host : Host σ) (passes : Callable → Value → Bool)
    (answers : ∀ callee, .predicate callee ∈ Schema.parts validator.schema → host.Answers callee (passes callee))
    (data : Value) :
    (validator.validate host data).EndRelated (Schema.DropsAlike validator.schema (data.entries?.getD []))
      (validator.validate host (data.dropUnbound (.nested validator.schema))) ∧
    ((∀ left right, Schema.Compares passes validator.schema (data.entries?.getD []) left right →
        left.Comparable ∧ right.Comparable) →
      ∀ state, ∃ report, (validator.validate host data state).result = .ok report) := by
  have sound_schema : Schema.isSound validator.schema = true := RuleSoundness.validator_sound built sound
  have answering : ∀ callee, .predicate callee ∈ Schema.parts validator.schema →
      (validator.judge host).host.Answers callee (passes callee) := answers
  constructor
  · have entries_left : (data.dropUnbound (.nested validator.schema)).entries?.getD [] =
        Value.dropUnboundEntries validator.schema (data.entries?.getD []) := by
      cases data <;> rfl
    have judged := judge_fields_related validator.schema sound_schema distinct answering
      (left_slots distinct (data.entries?.getD [])) ""
    rw [← entries_left] at judged
    refine related_sequence judged fun report report' alike => ?_
    exact settled_related (fun state => rfl) (fun state => rfl) alike
  · intro whole state
    obtain ⟨report, returned, -⟩ :=
      PathVerdicts.judge_fields_yields validator.schema sound_schema answering whole "" state
    exact ⟨report, Judge.validate_returns.mpr returned⟩

/-- A record of the walkthrough in which all is bound to no value, and predicates that pass just
that. Only the postal code can tell: it passes, and fails when its key is dropped. A
key that the schema does not name stays. -/
theorem walkthrough_unbound_keys :
    let data := Value.mapping .plain [("name", .undefined), ("status", .undefined), ("nickname", .undefined),
      ("deleted", .undefined), ("address", .mapping .plain [("zip", .undefined), ("city", .undefined)])]
    let left := Value.mapping .plain [("nickname", .undefined), ("address", .mapping .plain [])]
    let host := Catalogue.host [.isUndefined, .isUndefined]
    let report (zip : Bool) : Report := [("name", .leaf false), ("status", .leaf false), ("balance", .leaf false),
      ("tags", .leaf false), ("deleted", .leaf true), ("address", .branch [("city", .leaf false), ("zip", .leaf zip)])]
    Validator.ofAuthored (.mapping .plain Walkthrough.fields) validatorLogger = .ok Walkthrough.validator ∧
    Value.haveSoundRules Walkthrough.fields = true ∧ Schema.hasDistinctKeys Walkthrough.validator.schema = true ∧
    (∀ callee, .predicate callee ∈ Schema.parts Walkthrough.validator.schema →
      host.Answers callee fun v => v.kind == .undefined) ∧
    data.dropUnbound (.nested Walkthrough.validator.schema) = left ∧
    (Walkthrough.validator.validate host data []).result = .ok (report true) ∧
    (Walkthrough.validator.validate host left []).result = .ok (report false) ∧
    Schema.DropsAlike Walkthrough.validator.schema (data.entries?.getD []) (report true) (report false) := by
  intro data left host report
  have built : Validator.ofAuthored (.mapping .plain Walkthrough.fields) validatorLogger =
      .ok Walkthrough.validator := rfl
  have sound : Value.haveSoundRules Walkthrough.fields = true := by rfl
  have distinct : Schema.hasDistinctKeys Walkthrough.validator.schema = true := by decide
  have answers : ∀ callee, .predicate callee ∈ Schema.parts Walkthrough.validator.schema →
      host.Answers callee fun v => v.kind == .undefined := by
    intro callee mentioned v state
    rcases PathVerdicts.walkthrough_callees mentioned with rfl | rfl
    · exact ⟨_, rfl, rfl⟩
    · exact ⟨_, rfl, rfl⟩
  have dropped : data.dropUnbound (.nested Walkthrough.validator.schema) = left := by rfl
  have judged : (Walkthrough.validator.validate host data []).result = .ok (report true) := by rfl
  have judged_left : (Walkthrough.validator.validate host left []).result = .ok (report false) := by rfl
  obtain ⟨ends, -⟩ := unbound_keys_dropped built sound distinct host (fun _ v => v.kind == .undefined) answers data
  rw [dropped] at ends
  refine ⟨built, sound, distinct, answers, dropped, judged, judged_left, ?_⟩
  obtain ⟨_, _, returned, returned', alike⟩ | ⟨fault, failed, -⟩ := ends [] []
  · cases judged.symm.trans returned
    cases judged_left.symm.trans returned'
    exact alike
  · cases judged.symm.trans failed

end UnboundKeys
end RecordSchema
