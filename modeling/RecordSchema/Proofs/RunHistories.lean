import Mathlib.Data.List.Forall2
import Mathlib.Logic.Equiv.Basic
import Mathlib.Logic.Relation
import RecordSchema.Proofs.FieldSequence
import RecordSchema.Proofs.NestedRecords
import RecordSchema.Walkthrough

/-! Runs and what came before them. A validator keeps nothing between its calls; only
the predicates may. If what each of them answers is decided by its argument, then so
is what a validation returns: no sequence of earlier calls, failed ones included,
shows in it. So records may be judged in any order, and so may the fields of a
schema, at any depth; what is found is the same up to that order. -/
namespace RecordSchema

variable {σ τ : Type}

/-- A callee answers or fails alike under two meanings of calls, whatever the states. -/
def Host.Agrees (host : Host σ) (other : Host τ) (callee : Callable) : Prop :=
  ∀ v before before', (host callee v before).result = (other callee v before').result

/-- What a callee answers, or how it fails, is decided by its argument alone. -/
def Host.Steady (host : Host σ) (callee : Callable) : Prop := host.Agrees host callee

/-- Two actions end with the same result, whatever the states that they come in. -/
def Action.EndAlike {α : Type} (first : Action σ α) (second : Action τ α) : Prop :=
  ∀ state state', (first state).result = (second state').result

/-- An action returns the same from every state. -/
def Action.Settles {α : Type} (action : Action σ α) (a : α) : Prop := ∀ state, (action state).result = .ok a

/-- A call of a validator: of one value, or of all that a walk through a value meets. -/
inductive Validator.Call where
  | one (data : Value)
  | many (records : Value)

/-- The state of the predicates after calls of a validator, one after another. A call
that fails leaves a state as well, and the next one starts from it. -/
def Validator.after (validator : Validator) (host : Host σ) : List Validator.Call → σ → σ
  | [], state => state
  | .one data :: calls, state => validator.after host calls (validator.validate host data state).state
  | .many records :: calls, state => validator.after host calls (validator.validateMany host records state).state

/-- One step of reordering entries: two neighbours change places, or a step is made
inside the value of one of them. -/
inductive Entries.Swap {α : Type} (inner : α → α → Prop) : List (String × α) → List (String × α) → Prop where
  | neighbours (before : List (String × α)) (first second : String × α) (after : List (String × α)) :
      Entries.Swap inner (before ++ first :: second :: after) (before ++ second :: first :: after)
  | inside (before : List (String × α)) (key : String) {v w : α} (after : List (String × α)) (swap : inner v w) :
      Entries.Swap inner (before ++ (key, v) :: after) (before ++ (key, w) :: after)

/-- The same entries in another order, by any number of steps. -/
abbrev Entries.Reordered {α : Type} (inner : α → α → Prop) : List (String × α) → List (String × α) → Prop :=
  Relation.ReflTransGen (Entries.Swap inner)

/-- Two neighbouring fields of a nested rule change places, at whatever depth that rule
stands in the rules of fields, items and members. -/
inductive Rule.FieldSwap : Rule → Rule → Prop where
  | nested {fields fields' : Schema} (swap : Entries.Swap Rule.FieldSwap fields fields') :
      Rule.FieldSwap (.nested fields) (.nested fields')
  | item {item item' : Rule} (swap : Rule.FieldSwap item item') : Rule.FieldSwap (.array item) (.array item')
  | member (before : List Rule) {rule rule' : Rule} (after : List Rule) (swap : Rule.FieldSwap rule rule') :
      Rule.FieldSwap (.composite (before ++ rule :: after)) (.composite (before ++ rule' :: after))

/-- Two neighbouring keys of a report change places, at whatever depth. -/
inductive Verdict.KeySwap : Verdict → Verdict → Prop where
  | branch {report report' : Report} (swap : Entries.Swap Verdict.KeySwap report report') :
      Verdict.KeySwap (.branch report) (.branch report')

/-- Two neighbouring fields of an authored schema change places, at whatever depth that
schema stands in an authored rule. A mapping is such a schema if it lists no literals
and has no item rule. -/
inductive Value.FieldSwap : Value → Value → Prop where
  | schema (kind : MappingKind) {entries entries' : List (String × Value)} (no_enum : entries.lookup enumKey = none)
      (no_item : entries.lookup itemTypeKey = none) (swap : Entries.Swap Value.FieldSwap entries entries') :
      Value.FieldSwap (.mapping kind entries) (.mapping kind entries')
  | item (kind : MappingKind) (before : List (String × Value)) {v w : Value} (after : List (String × Value))
      (no_enum : (before ++ (itemTypeKey, v) :: after).lookup enumKey = none)
      (first : before.lookup itemTypeKey = none) (swap : Value.FieldSwap v w) :
      Value.FieldSwap (.mapping kind (before ++ (itemTypeKey, v) :: after))
        (.mapping kind (before ++ (itemTypeKey, w) :: after))
  | list (before : List Value) {v w : Value} (after : List Value) (swap : Value.FieldSwap v w) :
      Value.FieldSwap (.list (before ++ v :: after)) (.list (before ++ w :: after))
  | tuple (before : List Value) {v w : Value} (after : List Value) (swap : Value.FieldSwap v w) :
      Value.FieldSwap (.tuple (before ++ v :: after)) (.tuple (before ++ w :: after))
  | named (type : TupleType) (before : List Value) {v w : Value} (after : List Value) (swap : Value.FieldSwap v w) :
      Value.FieldSwap (.named type (before ++ v :: after)) (.named type (before ++ w :: after))

namespace RunHistories

variable {judge : Judge σ} {validator : Validator} {host : Host σ} {path key : String} {rule rule' : Rule}
  {fields fields' : Schema} {entries entries' : List (String × Value)} {slot : Option Value} {report : Report}
  {verdict : Verdict} {data : Value} {state : σ}

/-! ## Results that no state decides -/

theorem end_alike_sequence {α β : Type} {first : Action σ α} {first' : Action τ α} {next : α → Action σ β}
    {next' : α → Action τ β} (head : first.EndAlike first') (tail : ∀ a, (next a).EndAlike (next' a)) :
    (first >>= next).EndAlike (first' >>= next') := by
  intro state state'
  have start := head state state'
  rcases ran : first state with ⟨fault | a, middle, events⟩ <;>
    rcases ran' : first' state' with ⟨fault' | b, middle', events'⟩ <;> rw [ran, ran'] at start <;> cases start
  · rw [Action.bind_of_error ran, Action.bind_of_error ran']
  · rw [Action.bind_of_ok ran, Action.bind_of_ok ran']
    exact tail a middle middle'

/-- A check that decides a thing in every state returns the same from all of them. -/
theorem decided_settles {action : Action σ Bool} {p : Prop} (decides : action.Decides p) :
    ∃ passed, action.Settles passed ∧ (passed = true ↔ p) := by
  by_cases holds : p
  · refine ⟨true, fun state => ?_, by simpa using holds⟩
    obtain ⟨passed, returned, tells⟩ := decides state
    rw [returned, tells.mpr holds]
  · refine ⟨false, fun state => ?_, by simpa using holds⟩
    obtain ⟨passed, returned, tells⟩ := decides state
    have failed : passed = false := Bool.eq_false_iff.mpr fun passes => holds (tells.mp passes)
    rw [returned, failed]

/-- A check that returns the same from every state decides whether it passes. -/
theorem settled_decides {action : Action σ Bool} {passed : Bool} (settled : action.Settles passed) :
    action.Decides (action.Settles true) := by
  intro state
  refine ⟨passed, settled state, fun same => same ▸ settled, fun passes => ?_⟩
  exact Except.ok.inj ((settled state).symm.trans (passes state))

/-- Judges whose calls answer alike end alike. -/
def sameResults (one : Judge σ) (other : Judge τ) : one.Likeness other (one.host.Agrees other.host) where
  alike := Action.EndAlike
  returning _ _ _ := rfl
  failing _ _ _ := rfl
  sequence := end_alike_sequence
  calls callee v agrees := by
    have emitted : (Action.emit (.called callee v) : Action σ Unit).EndAlike
        (Action.emit (.called callee v) : Action τ Unit) := fun _ _ => rfl
    refine end_alike_sequence emitted fun _ => end_alike_sequence (agrees v) fun answer state state' => ?_
    rw [Action.of_except_run, Action.of_except_run]
  records _ _ := True
  keys _ := true
  warnings _ _ _ _ _ _ _ _ _ := rfl
  inside _ _ _ _ _ := trivial

theorem judge_fields_end_alike {one : Judge σ} {other : Judge τ} (fields : Schema)
    (agrees : ∀ callee, .predicate callee ∈ Schema.parts fields → one.host.Agrees other.host callee)
    (path : String) (entries : List (String × Value)) :
    (one.judgeFields path entries fields).EndAlike (other.judgeFields path entries fields) := by
  have together : (sameResults one other).records path path := trivial
  exact (sameResults one other).judge_fields fields together (Schema.any_keys fields) agrees entries

theorem judge_field_steady (steady : ∀ callee, .predicate callee ∈ rule.parts → judge.host.Steady callee)
    (path : String) (slot : Option Value) :
    (judge.judgeField path slot rule).EndAlike (judge.judgeField path slot rule) := by
  refine (sameResults judge judge).judge_field slot (fun _ _ _ _ => rfl) steady ?_
  rintro inner record rfl
  exact judge_fields_end_alike inner steady path record

/-- What a validator returns for a value depends on nothing but its rules, the value
and the answers of the calls. -/
theorem validate_end_alike {fresh : Validator} {other : Host τ} (same : fresh.objects = validator.objects)
    (agrees : ∀ callee, .predicate callee ∈ Schema.parts validator.schema → host.Agrees other callee)
    (data : Value) : (validator.validate host data).EndAlike (fresh.validate other data) := by
  have schemas : fresh.schema = validator.schema := congrArg Rule.ofFields same
  have judged : ((validator.judge host).judgeFields "" (data.entries?.getD []) validator.schema).EndAlike
      ((fresh.judge other).judgeFields "" (data.entries?.getD []) validator.schema) :=
    judge_fields_end_alike validator.schema agrees "" (data.entries?.getD [])
  rw [Validator.validate, Validator.validate, schemas]
  exact end_alike_sequence judged fun report _ _ => rfl

/-- The ready-made predicates of a catalogue are steady, unless one of them counts its
calls or asks a validator. -/
theorem catalogue_steady {catalogue : Catalogue} (uncounted : ∀ count, .firstCalls count ∉ catalogue)
    (alone : ∀ validator, .validUnder validator ∉ catalogue) (callee : Callable) : catalogue.host.Steady callee := by
  intro v before before'
  have behaves {behaviour : Behaviour} (listed : behaviour ∈ catalogue) (host : Host Tally) (calls calls' : Nat) :
      (behaviour.run host calls v).EndAlike (behaviour.run host calls' v) := by
    intro tally tally'
    cases behaviour with
    | firstCalls count => exact absurd listed (uncounted count)
    | validUnder validator => exact absurd listed (alone validator)
    | above bound => simp only [Behaviour.run, Action.map_run, Action.of_except_run]
    | floatPositive =>
      simp only [Behaviour.run]
      cases v.toFloat with
      | error fault => rfl
      | ok x => simp only [Action.of_except_ok, pure_bind, Action.map_run, Action.of_except_run]
    | lengthIs length =>
      simp only [Behaviour.run]
      cases v.length? with
      | none => rfl
      | some n =>
        obtain ⟨result, answered⟩ := Action.comparison_answer_run (σ := Tally) ((Value.int n).equal length)
        simp only [answered]
    | _ => rfl
  cases callee with
  | builtin function =>
    have applied (tally : Tally) : catalogue.host (.builtin function) v tally = ⟨function.apply v, tally, []⟩ :=
      Action.of_except_run _
    rw [applied, applied]
  | predicate id name | function id name =>
    simp only [Catalogue.host, Catalogue.hostWithin]
    cases found : catalogue[id]? with
    | none => rfl
    | some behaviour => exact behaves (List.mem_of_getElem? found) _ _ _ _ _

/-! ## Records in another order -/

/-- If every record is judged to its report from whatever state, so are all of them
in one run. -/
theorem validate_all_settles {schema : Schema} {records : List Value} {reports : List Report}
    (each : List.Forall₂ (fun data report => ∀ state, (judge.validate schema data state).result = .ok report)
      records reports) (state : σ) : (judge.validateAll schema records state).result = .ok reports := by
  induction each generalizing state with
  | nil => rfl
  | cons first others ih =>
    rw [Judge.validateAll]
    refine Action.bind_returns.mpr ⟨_, first state, ?_⟩
    exact Action.map_returns.mpr ⟨_, ih _, rfl⟩

theorem validate_many_permuted {n : Nat} {records : Fin n → Value} {reports : Fin n → Report}
    (each : ∀ i state, (validator.validate host (records i) state).result = .ok (reports i))
    (order : Equiv.Perm (Fin n)) (state : σ) :
    (validator.validateMany host (.list (List.ofFn (records ∘ order))) state).result =
      .ok (List.ofFn (reports ∘ order)) := by
  have all : (validator.validateMany host (.list (List.ofFn (records ∘ order)))) =
      (validator.judge host).validateAll validator.schema (List.ofFn (records ∘ order)) := rfl
  rw [all]
  refine validate_all_settles ?_ state
  rw [List.forall₂_iff_get]
  refine ⟨by simp, fun i inside inside' state => ?_⟩
  have judged := each (order ⟨i, by simpa using inside⟩) state
  simpa [Validator.validate] using judged

/-! ## Fields in another order -/

theorem parts_append (first second : Schema) :
    Schema.parts (first ++ second) = Schema.parts first ++ Schema.parts second := by
  induction first with
  | nil => rfl
  | cons field rest ih =>
    obtain ⟨key, rule⟩ := field
    rw [List.cons_append, Schema.parts, Schema.parts, ih, List.append_assoc]

theorem member_parts_append (first second : List Rule) :
    Rule.memberParts (first ++ second) = Rule.memberParts first ++ Rule.memberParts second := by
  induction first with
  | nil => rfl
  | cons rule rest ih => rw [List.cons_append, Rule.memberParts, Rule.memberParts, ih, List.append_assoc]

mutual
theorem parts_swapped {rule rule' : Rule} : rule.FieldSwap rule' → rule.parts.Perm rule'.parts
  | .nested swap => schema_parts_swapped swap
  | .item swap => by
    rw [Rule.parts, Rule.parts]
    exact parts_swapped swap
  | .member before after swap => by
    rw [Rule.parts, Rule.parts, member_parts_append, member_parts_append]
    exact ((parts_swapped swap).append_right _).append_left _

theorem schema_parts_swapped {fields fields' : Schema} :
    Entries.Swap Rule.FieldSwap fields fields' → (Schema.parts fields).Perm (Schema.parts fields')
  | .neighbours before first second after => by
    rw [parts_append, parts_append]
    refine List.Perm.append_left _ ?_
    simp only [Schema.parts, ← List.append_assoc]
    exact List.perm_append_comm.append_right _
  | .inside before key after swap => by
    rw [parts_append, parts_append]
    exact ((parts_swapped swap).append_right _).append_left _
end

/-- No check opens the fields of a nested rule that is an item or a member. -/
theorem check_simple_swapped (swap : rule.FieldSwap rule') (path : String) (v : Value) :
    judge.checkSimple path rule v = judge.checkSimple path rule' v := by
  cases swap with
  | item swap =>
    rw [Judge.checkSimple, Judge.checkSimple]
    cases swap <;> rfl
  | _ => rfl

theorem check_members_swapped (swap : rule.FieldSwap rule') (before after : List Rule) (path : String) (v : Value) :
    judge.checkMembers path (before ++ rule :: after) v = judge.checkMembers path (before ++ rule' :: after) v := by
  induction before with
  | nil =>
    have same : rule.isSimple = rule'.isSimple ∧ rule.typeName = rule'.typeName := by cases swap <;> exact ⟨rfl, rfl⟩
    simp only [List.nil_append, Judge.checkMembers, check_simple_swapped swap, same]
  | cons member rest ih => simp only [List.cons_append, Judge.checkMembers, ih]

theorem judge_item_swapped {item item' : Rule} (swap : item.FieldSwap item') (path : String) (slot : Option Value) :
    judge.judgeField path slot (.array item) = judge.judgeField path slot (.array item') := by
  have checked (v : Value) : judge.checkSimple path (.array item) v = judge.checkSimple path (.array item') v :=
    check_simple_swapped (.item swap) path v
  cases slot with
  | none => rfl
  | some v => simp only [Judge.judgeField, Judge.judgeLeaf, Judge.checkPresent, checked]

theorem judge_member_swapped (swap : rule.FieldSwap rule') (before after : List Rule) (path : String)
    (slot : Option Value) : judge.judgeField path slot (.composite (before ++ rule :: after)) =
      judge.judgeField path slot (.composite (before ++ rule' :: after)) := by
  cases slot with
  | none => rfl
  | some v => simp only [Judge.judgeField, Judge.judgeLeaf, Judge.checkPresent, check_members_swapped swap]

/-- Fields that return a report settle on it, part by part: those before a field, the
field itself and those after it. -/
theorem field_apart (before : Schema) (key : String) (rule : Rule) (after : Schema)
    (steady : ∀ callee, .predicate callee ∈ Schema.parts (before ++ (key, rule) :: after) → judge.host.Steady callee)
    (returned : (judge.judgeFields path entries (before ++ (key, rule) :: after) state).result = .ok report) :
    ∃ front verdict back, report = front ++ (key, verdict) :: back ∧
      (judge.judgeFields path entries before).Settles front ∧
      (judge.judgeField (extendPath defaultSeparator path key) (entries.lookup key) rule).Settles verdict ∧
      (judge.judgeFields path entries after).Settles back := by
  rw [parts_append, Schema.parts] at steady
  simp only [List.mem_append] at steady
  have head := judge_fields_end_alike before (fun callee part => steady callee (.inl part)) path entries
  have own := judge_field_steady (fun callee part => steady callee (.inr (.inl part)))
    (extendPath defaultSeparator path key) (entries.lookup key)
  have tail := judge_fields_end_alike after (fun callee part => steady callee (.inr (.inr part))) path entries
  rw [FieldSequence.judge_fields_append, Action.bind_returns] at returned
  obtain ⟨front, first, others⟩ := returned
  obtain ⟨rest, second, rfl⟩ := Action.map_returns.mp others
  obtain ⟨verdict, back, judged, last, rfl⟩ := Judge.judge_fields_cons_returns.mp second
  exact ⟨front, verdict, back, rfl, fun state => (head state _).trans first, fun state => (own state _).trans judged,
    fun state => (tail state _).trans last⟩

theorem field_together {before after : Schema} {front back : Report}
    (head : (judge.judgeFields path entries before).Settles front)
    (own : (judge.judgeField (extendPath defaultSeparator path key) (entries.lookup key) rule).Settles verdict)
    (tail : (judge.judgeFields path entries after).Settles back) :
    (judge.judgeFields path entries (before ++ (key, rule) :: after)).Settles (front ++ (key, verdict) :: back) := by
  intro state
  rw [FieldSequence.judge_fields_append]
  refine Action.bind_returns.mpr ⟨front, head state, Action.map_returns.mpr ⟨(key, verdict) :: back, ?_, rfl⟩⟩
  exact Judge.judge_fields_cons_returns.mpr ⟨verdict, back, own _, tail _, rfl⟩

mutual
/-- A field that returns a verdict returns it up to the order of its keys after a swap
of fields in it. -/
theorem judge_field_swapped {rule rule' : Rule} {path : String} {slot : Option Value} {state : σ} {verdict : Verdict} :
    rule.FieldSwap rule' → (∀ callee, .predicate callee ∈ rule.parts → judge.host.Steady callee) →
    (judge.judgeField path slot rule state).result = .ok verdict →
    ∃ verdict', (judge.judgeField path slot rule').Settles verdict' ∧
      Relation.ReflTransGen Verdict.KeySwap verdict verdict'
  | .nested swap, steady, returned => by
    cases record : Judge.record? slot with
    | none =>
      rw [Judge.judge_field_refused record, Judge.refuse_nested_run] at returned
      cases returned
      rw [Judge.judge_field_refused record]
      exact ⟨.leaf false, fun state' => rfl, .refl⟩
    | some found =>
      rw [Judge.judge_field_record record] at returned
      obtain ⟨report, judged, rfl⟩ := Action.map_returns.mp returned
      obtain ⟨report', judged', same⟩ := judge_fields_swapped swap steady judged
      rw [Judge.judge_field_record record]
      refine ⟨.branch report', fun state' => Action.map_returns.mpr ⟨report', judged' state', rfl⟩, ?_⟩
      exact same.lift Verdict.branch fun _ _ step => .branch step
  | .item swap, steady, returned => by
    have alike := judge_field_steady steady path slot
    rw [← judge_item_swapped swap]
    exact ⟨verdict, fun state' => (alike state' _).trans returned, .refl⟩
  | .member before after swap, steady, returned => by
    have alike := judge_field_steady steady path slot
    rw [← judge_member_swapped swap]
    exact ⟨verdict, fun state' => (alike state' _).trans returned, .refl⟩

theorem judge_fields_swapped {fields fields' : Schema} {path : String} {entries : List (String × Value)} {state : σ}
    {report : Report} : Entries.Swap Rule.FieldSwap fields fields' →
    (∀ callee, .predicate callee ∈ Schema.parts fields → judge.host.Steady callee) →
    (judge.judgeFields path entries fields state).result = .ok report →
    ∃ report', (judge.judgeFields path entries fields').Settles report' ∧
      Entries.Reordered Verdict.KeySwap report report'
  | .neighbours before (one, rule) (other, rule') after, steady, returned => by
    obtain ⟨front, verdict, rest, rfl, head, own, others⟩ := field_apart before one rule _ steady returned
    rw [parts_append] at steady
    have steady' := fun callee part => steady callee (List.mem_append_right _ (List.mem_append_right _ part))
    obtain ⟨none_else, verdict', back, rfl, nothing, own', tail⟩ :=
      field_apart [] other rule' after steady' (others state)
    cases nothing state
    have rest := field_together nothing own tail
    exact ⟨front ++ (other, verdict') :: (one, verdict) :: back, field_together head own' rest,
      .single (.neighbours front _ _ back)⟩
  | .inside before key (v := rule) after swap, steady, returned => by
    obtain ⟨front, verdict, back, rfl, head, own, tail⟩ := field_apart before key rule after steady returned
    have steady_own : ∀ callee, .predicate callee ∈ rule.parts → judge.host.Steady callee := by
      intro callee part
      rw [parts_append] at steady
      exact steady callee (List.mem_append_right _ (List.mem_append_left _ part))
    obtain ⟨verdict', own', same⟩ := judge_field_swapped swap steady_own (own state)
    refine ⟨front ++ (key, verdict') :: back, field_together head own' tail, ?_⟩
    exact same.lift (fun verdict => front ++ (key, verdict) :: back) fun _ _ step => .inside front key back step
end

/-- Fields that return a report return it in another order when they are in another
order themselves. -/
theorem judge_fields_reordered (order : Entries.Reordered Rule.FieldSwap fields fields')
    (steady : ∀ callee, .predicate callee ∈ Schema.parts fields → judge.host.Steady callee)
    (returned : (judge.judgeFields path entries fields state).result = .ok report) (state' : σ) :
    ∃ report', (judge.judgeFields path entries fields' state').result = .ok report' ∧
      Entries.Reordered Verdict.KeySwap report report' := by
  have kept : (Schema.parts fields).Perm (Schema.parts fields') ∧ ∃ report',
      (judge.judgeFields path entries fields').Settles report' ∧ Entries.Reordered Verdict.KeySwap report report' := by
    induction order with
    | refl =>
      have alike := judge_fields_end_alike fields steady path entries
      exact ⟨.refl _, report, fun state' => (alike state' _).trans returned, .refl⟩
    | tail order swap ih =>
      obtain ⟨parts, middle, settled, same⟩ := ih
      have steady' := fun callee part => steady callee (parts.mem_iff.mpr part)
      obtain ⟨report', settled', same'⟩ := judge_fields_swapped swap steady' (settled state)
      exact ⟨parts.trans (schema_parts_swapped swap), report', settled', same.trans same'⟩
  obtain ⟨-, report', settled, same⟩ := kept
  exact ⟨report', settled state', same⟩

/-! ### Schemas as they are written -/

theorem rule_objects_append (first second : List Value) :
    Rule.ofObjects (Value.ruleObjects (first ++ second)) =
      Rule.ofObjects (Value.ruleObjects first) ++ Rule.ofObjects (Value.ruleObjects second) := by
  induction first with
  | nil => rfl
  | cons v rest ih => rw [List.cons_append, Value.ruleObjects, Value.ruleObjects, Rule.ofObjects, Rule.ofObjects, ih,
      List.cons_append]

theorem rule_entries_append (first second : List (String × Value)) :
    Rule.ofFields (Value.ruleEntries (first ++ second)) =
      Rule.ofFields (Value.ruleEntries first) ++ Rule.ofFields (Value.ruleEntries second) :=
  FieldSequence.schema_append "" first second

theorem keys_swapped {α : Type} {inner : α → α → Prop} {entries entries' : List (String × α)}
    (swap : Entries.Swap inner entries entries') : (entries.map (·.1)).Perm (entries'.map (·.1)) := by
  cases swap with
  | neighbours before first second after => simpa using (List.Perm.swap _ _ _).append_left _
  | inside before key after swap => simp

theorem absent_swapped {α : Type} {inner : α → α → Prop} {entries entries' : List (String × α)}
    (swap : Entries.Swap inner entries entries') (absent : entries.lookup key = none) :
    entries'.lookup key = none := by
  rw [Entries.lookup_eq_none] at absent ⊢
  exact fun present => absent ((keys_swapped swap).mem_iff.mpr present)

/-- A mapping that lists no literals but has an item rule stands for an array rule. -/
theorem mapping_array (kind : MappingKind) (before after : List (String × Value)) (v : Value)
    (no_enum : (before ++ (itemTypeKey, v) :: after).lookup enumKey = none)
    (first : before.lookup itemTypeKey = none) :
    Rule.ofObject (Value.mapping kind (before ++ (itemTypeKey, v) :: after)).ruleObject =
      .array (Rule.ofObject v.ruleObject) := by
  have item : (Value.ruleEntries (before ++ (itemTypeKey, v) :: after)).lookup itemTypeKey = some v.ruleObject := by
    rw [NestedRecords.lookup_of_entries, List.lookup_append, first]
    simp
  rw [Value.ruleObject, Value.mappingObject, no_enum, item, Rule.ofObject]

mutual
/-- A swap of fields in an authored rule is one in the rule that it stands for. -/
theorem authored_swapped {v w : Value} :
    v.FieldSwap w → (Rule.ofObject v.ruleObject).FieldSwap (Rule.ofObject w.ruleObject)
  | .schema kind no_enum no_item swap => by
    have nested := NestedRecords.mapping_nested kind no_enum no_item
    have nested' := NestedRecords.mapping_nested kind (absent_swapped swap no_enum) (absent_swapped swap no_item)
    rw [Rule.ofAuthored] at nested nested'
    rw [nested, nested']
    exact .nested (entries_swapped swap)
  | .item kind before after no_enum first swap => by
    have no_enum' := absent_swapped (.inside before itemTypeKey after swap) no_enum
    rw [mapping_array kind before after _ no_enum first, mapping_array kind before after _ no_enum' first]
    exact .item (authored_swapped swap)
  | .list before after swap => by
    simp only [Value.ruleObject, Rule.ofObject, rule_objects_append]
    exact .member _ _ (authored_swapped swap)
  | .tuple before after swap => by
    simp only [Value.ruleObject, Rule.ofObject, rule_objects_append]
    exact .member _ _ (authored_swapped swap)
  | .named type before after swap => by
    simp only [Value.ruleObject, Rule.ofObject, rule_objects_append]
    exact .member _ _ (authored_swapped swap)

theorem entries_swapped {entries entries' : List (String × Value)} : Entries.Swap Value.FieldSwap entries entries' →
    Entries.Swap Rule.FieldSwap (Rule.ofFields (Value.ruleEntries entries)) (Rule.ofFields (Value.ruleEntries entries'))
  | .neighbours before first second after => by
    rw [rule_entries_append, rule_entries_append]
    exact .neighbours _ _ _ _
  | .inside before key after swap => by
    rw [rule_entries_append, rule_entries_append]
    exact .inside _ key _ (authored_swapped swap)
end

/-- What came before leaves no trace in what a validator returns, if every predicate
of its schema answers or fails by its argument alone. After any calls of the validator,
from any state, a value is judged to the same report or fault as by a validator freshly
built from the same schema, from any other state. So records that are judged without a
fault may be judged together in any order, and the reports are in that order too. And
a schema whose fields are in another order, at whatever depth, returns the same
report up to the order of its keys wherever the first one returns any. -/
theorem histories_leave_no_trace {authored : Value} {logger : String} {validator : Validator}
    (built : Validator.ofAuthored authored logger = .ok validator) (host : Host σ)
    (steady : ∀ callee, .predicate callee ∈ Schema.parts validator.schema → host.Steady callee) :
    (∀ (calls : List Validator.Call) (start : σ) (data : Value) (logger' : String) (fresh : Validator),
      Validator.ofAuthored authored logger' = .ok fresh → ∀ state,
        (validator.validate host data (validator.after host calls start)).result =
          (fresh.validate host data state).result) ∧
    (∀ (n : Nat) (records : Fin n → Value) (state : σ),
      (∀ i, ∃ report, (validator.validate host (records i) state).result = .ok report) →
        ∃ reports : Fin n → Report,
          (∀ i, (validator.validate host (records i) state).result = .ok (reports i)) ∧
          ∀ (order : Equiv.Perm (Fin n)) (state' : σ),
            (validator.validateMany host (.list (List.ofFn (records ∘ order))) state').result =
              .ok (List.ofFn (reports ∘ order))) ∧
    (∀ (other : Validator), Entries.Reordered Rule.FieldSwap validator.schema other.schema →
      ∀ (data : Value) (state : σ) (report : Report), (validator.validate host data state).result = .ok report →
        ∀ state' : σ, ∃ report', (other.validate host data state').result = .ok report' ∧
          Entries.Reordered Verdict.KeySwap report report') ∧
    (∀ (kind : MappingKind) (entries : List (String × Value)),
      Entries.Reordered Value.FieldSwap (authored.entries?.getD []) entries →
        ∃ other, Validator.ofAuthored (.mapping kind entries) logger = .ok other ∧
          Entries.Reordered Rule.FieldSwap validator.schema other.schema) := by
  have settled {fresh : Validator} (same : fresh.objects = validator.objects) (data : Value) (state state' : σ) :
      (validator.validate host data state).result = (fresh.validate host data state').result :=
    validate_end_alike same steady data state state'
  refine ⟨?_, ?_, ?_, ?_⟩
  · intro calls start data logger' fresh built' state
    refine settled ?_ data _ state
    cases entries : authored.entries? with
    | none => simp [Validator.ofAuthored, Value.schemaObjects, entries, Except.map] at built
    | some found =>
      simp only [Validator.ofAuthored, Value.schemaObjects, entries, Except.map, Except.ok.injEq] at built built'
      rw [← built, ← built']
  · intro n records state each
    choose reports judged using each
    refine ⟨reports, judged, fun order state' => validate_many_permuted (fun i state' => ?_) order state'⟩
    exact (settled rfl (records i) state' state).trans (judged i)
  · intro other order data state report returned state'
    have agrees : ∀ callee, .predicate callee ∈ Schema.parts validator.schema →
        (validator.judge host).host.Agrees (other.judge host).host callee := steady
    have alike : ((validator.judge host).judgeFields "" (data.entries?.getD []) validator.schema).EndAlike
        ((other.judge host).judgeFields "" (data.entries?.getD []) validator.schema) :=
      judge_fields_end_alike validator.schema agrees "" (data.entries?.getD [])
    have returned' := (alike state state).symm.trans (Judge.validate_returns.mp returned)
    obtain ⟨report', judged, same⟩ := judge_fields_reordered order steady returned' state'
    exact ⟨report', Judge.validate_returns.mpr judged, same⟩
  · intro kind entries order
    refine ⟨⟨Value.ruleEntries entries, logger⟩, rfl, ?_⟩
    cases found : authored.entries? with
    | none => simp [Validator.ofAuthored, Value.schemaObjects, found, Except.map] at built
    | some own =>
      simp only [Validator.ofAuthored, Value.schemaObjects, found, Except.map, Except.ok.injEq] at built
      rw [found, Option.getD_some] at order
      rw [← built]
      exact order.lift (Rule.ofFields ∘ Value.ruleEntries) fun _ _ swap => entries_swapped swap

/-- A text as the balance makes the predicate fail, at first and in the middle of a run;
an account judged after that, two of them in the other order, and the same fields with
the city and the address in other places are judged as if it had not been. -/
theorem walkthrough_history_unseen :
    let host := Catalogue.host [.above (.int 0)]
    let city := ("city", Value.text "string")
    let zip := ("zip", Value.text "string")
    let balance := ("balance", Value.callable Walkthrough.isPositive)
    let account (balance : Int) := Value.mapping .plain [("balance", .int balance)]
    let unsound := Value.mapping .plain [("balance", .text "x")]
    let report (passes : Bool) : Report :=
      [("balance", .leaf passes), ("address", .branch [("city", .leaf false), ("zip", .leaf false)])]
    ∃ validator other,
      Validator.ofAuthored (.mapping .plain [balance, ("address", .mapping .plain [city, zip])]) validatorLogger =
        .ok validator ∧
      (∀ callee, .predicate callee ∈ Schema.parts validator.schema → host.Steady callee) ∧
      (validator.validate host unsound []).result = .error .unsupported ∧
      (validator.validate host (account 5)
        (validator.after host [.one unsound, .many (.list [account 1, unsound])] [])).result = .ok (report true) ∧
      (validator.validateMany host (.list [account (-5), account 5]) []).result = .ok [report false, report true] ∧
      Validator.ofAuthored (.mapping .plain [("address", .mapping .plain [zip, city]), balance]) validatorLogger =
        .ok other ∧
      ∃ report', (other.validate host (account 5) []).result = .ok report' ∧
        Entries.Reordered Verdict.KeySwap (report true) report' := by
  intro host city zip balance account unsound report
  have settled (v : Value) (tally : Tally) : (host Walkthrough.isPositive v tally).result =
      (v.above? (.int 0)).map Behaviour.answer := by
    have asked : host Walkthrough.isPositive v = Catalogue.countCall 0 >>= fun _ =>
        Behaviour.answer <$> (.ofExcept (v.above? (.int 0)) : Action Tally (Option Bool)) := rfl
    have counted : Catalogue.countCall 0 tally = ⟨.ok (tally.count 0 + 1), tally.bump 0, []⟩ := rfl
    rw [asked, Action.bind_of_ok counted, Action.map_run, Action.of_except_run]
  let validator := Validator.ofEntries validatorLogger [balance, ("address", .mapping .plain [city, zip])]
  have steady : ∀ callee, .predicate callee ∈ Schema.parts validator.schema → host.Steady callee := by
    intro callee part
    have parts : Schema.parts validator.schema =
        [.predicate Walkthrough.isPositive, .primitive .string, .primitive .string] := by rfl
    rw [parts] at part
    have same : callee = Walkthrough.isPositive := by simpa using part
    intro v before before'
    rw [same, settled, settled]
  have built : Validator.ofAuthored (.mapping .plain [balance, ("address", .mapping .plain [city, zip])])
      validatorLogger = .ok validator := rfl
  obtain ⟨history, permuted, reordered, written⟩ := histories_leave_no_trace built host steady
  have judged : (validator.validate host (account 5) []).result = .ok (report true) := by rfl
  have judged' : (validator.validate host (account (-5)) []).result = .ok (report false) := by rfl
  have failed : (validator.validate host unsound []).result = .error .unsupported := by rfl
  let calls : List Validator.Call := [.one unsound, .many (.list [account 1, unsound])]
  have after := history calls [] (account 5) validatorLogger validator built []
  obtain ⟨reports, each, orders⟩ := permuted 2 (fun i => account (if i = 0 then 5 else -5)) [] (by
    intro i
    match i with
    | 0 => exact ⟨_, judged⟩
    | 1 => exact ⟨_, judged'⟩)
  have first : reports 0 = report true := Except.ok.inj ((each 0).symm.trans judged)
  have second : reports 1 = report false := Except.ok.inj ((each 1).symm.trans judged')
  have swapped : (validator.validateMany host (.list [account (-5), account 5]) []).result =
      .ok [reports 1, reports 0] := orders (Equiv.swap 0 1) []
  rw [first, second] at swapped
  have order : Entries.Reordered Value.FieldSwap [balance, ("address", .mapping .plain [city, zip])]
      [("address", .mapping .plain [zip, city]), balance] := by
    have inside : Entries.Swap Value.FieldSwap [balance, ("address", .mapping .plain [city, zip])]
        [balance, ("address", .mapping .plain [zip, city])] :=
      .inside [balance] "address" [] (.schema .plain rfl rfl (.neighbours [] city zip []))
    exact .tail (.single inside) (.neighbours [] balance _ [])
  obtain ⟨other, built', order'⟩ := written .plain _ order
  obtain ⟨report', judged'', same⟩ := reordered other order' (account 5) [] (report true) judged []
  exact ⟨validator, other, built, steady, failed, after.trans judged, swapped, built', report', judged'', same⟩

end RunHistories
end RecordSchema
