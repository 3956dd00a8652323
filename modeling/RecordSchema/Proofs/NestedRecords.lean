import RecordSchema.Proofs.Likeness
import RecordSchema.Walkthrough

/-! A schema inside a schema. Under a key, a schema judges a record as it does on
its own: with the same report or fault, from the same calls in the same order, and
with the same warnings but for their paths, which all begin with the key. What a
predicate does while it is called, such as telling a logger itself, is not a matter
of paths and stays as it is. -/
namespace RecordSchema

/-- What a judge does and leaves events of: it makes a call, which may leave more
events on its own, or tells the logger of trouble. -/
inductive Deed where
  | call (callee : Callable) (argument : Value) (aside : List Event)
  | warning (notice : Notice)

/-- A warning whose path is put below a key. -/
def Notice.beneath (key : String) (notice : Notice) : Notice :=
  match notice.path? with
  | some path => notice.moved (key ++ defaultSeparator ++ path)
  | none => notice

namespace Deed

/-- The events of a deed. -/
def events (logger : String) : Deed → List Event
  | .call callee argument aside => .called callee argument :: aside
  | .warning notice => [.logged logger notice]

/-- The deed of a judge that starts below a key. -/
def beneath (key : String) : Deed → Deed
  | .call callee argument aside => .call callee argument aside
  | .warning notice => .warning (notice.beneath key)

/-- What a call leaves besides is what the callee leaves from some state, and
only trouble is told of. -/
def IsBy {σ : Type} (host : Host σ) : Deed → Prop
  | .call callee argument aside => ∃ state, aside = (host callee argument state).events
  | .warning notice => notice.level = .warning

end Deed

namespace NestedRecords

variable {σ : Type} {judge : Judge σ} {host : Host σ} {key logger : String} {v : Value} {state : σ}
  {entries : List (String × Value)}

theorem moved_beneath (key path : String) (notice : Notice) (warning : notice.level = .warning) :
    (notice.moved path).beneath key = notice.moved (key ++ defaultSeparator ++ path) := by
  cases notice with
  | judged | rowsJudged => cases warning
  | _ => rfl

/-- Two actions end alike after the same deeds, of which those of the second one
are put below a key. -/
def EndBeneath (judge : Judge σ) (key : String) {α : Type} (first second : Action σ α) (state : σ) : Prop :=
  ∃ (result : Except Fault α) (after : σ) (deeds : List Deed), (∀ deed ∈ deeds, deed.IsBy judge.host) ∧
    first state = ⟨result, after, deeds.flatMap (Deed.events judge.logger)⟩ ∧
    second state = ⟨result, after, deeds.flatMap fun deed => (deed.beneath key).events judge.logger⟩

theorem end_beneath_sequence {α β : Type} {first second : Action σ α} {next next' : α → Action σ β}
    (head : ∀ state, EndBeneath judge key first second state)
    (tail : ∀ a state, EndBeneath judge key (next a) (next' a) state) (state : σ) :
    EndBeneath judge key (first >>= next) (second >>= next') state := by
  obtain ⟨result, middle, deeds, by_host, ran, ran'⟩ := head state
  cases result with
  | error fault =>
    exact ⟨.error fault, middle, deeds, by_host, Action.bind_of_error ran, Action.bind_of_error ran'⟩
  | ok a =>
    obtain ⟨result, after, others, by_host', ran_next, ran_next'⟩ := tail a middle
    refine ⟨result, after, deeds ++ others, List.forall_mem_append.mpr ⟨by_host, by_host'⟩, ?_, ?_⟩
    · rw [List.flatMap_append]
      exact Action.bind_runs ran ran_next
    · rw [List.flatMap_append]
      exact Action.bind_runs ran' ran_next'

theorem end_beneath_call (callee : Callable) (v : Value) (state : σ) :
    EndBeneath judge key (judge.holds callee v) (judge.holds callee v) state := by
  obtain ⟨result, after, ran⟩ := judge.holds_run callee v state
  refine ⟨result, after, [.call callee v (judge.host callee v state).events], ?_, ?_, ?_⟩
  · exact List.forall_mem_singleton.mpr ⟨state, rfl⟩
  · rw [ran, List.flatMap_singleton]
    rfl
  · rw [ran, List.flatMap_singleton]
    rfl

/-- The paths of a record at the top or below it, and of the same record below a
key. The path at the top is empty, so that no separator follows the key there. -/
def AreBeneath (key path place : String) : Prop :=
  (path = "" ∧ place = key) ∨ (path ≠ "" ∧ place = key ++ defaultSeparator ++ path)

theorem extend_beneath {path place name : String} (named : key ≠ "") (filled : name ≠ "")
    (together : AreBeneath key path place) :
    extendPath defaultSeparator path name ≠ "" ∧ extendPath defaultSeparator place name =
      key ++ defaultSeparator ++ extendPath defaultSeparator path name := by
  rcases together with ⟨rfl, rfl⟩ | ⟨below, rfl⟩
  · simp [extendPath, named, filled]
  · simp [extendPath, below, named, String.append_assoc]

/-- Below a key that is not empty, and along keys that are not, a judge does the
same deeds as at the top. -/
private def shifted (judge : Judge σ) (key : String) (named : key ≠ "") : judge.Likeness judge (fun _ => True) where
  alike first second := ∀ state, EndBeneath judge key first second state
  returning a state := ⟨.ok a, state, [], by simp, rfl, rfl⟩
  failing fault state := ⟨.error fault, state, [], by simp, rfl, rfl⟩
  sequence := end_beneath_sequence
  calls callee v _ := end_beneath_call callee v
  records := AreBeneath key
  keys name := !name.isEmpty
  warnings path place name together filled notice warning state := by
    refine ⟨.ok (), state, [.warning (notice.moved (extendPath defaultSeparator path name))], ?_, rfl, ?_⟩
    · rw [List.forall_mem_singleton]
      exact (Notice.moved_level _ notice).trans warning
    · obtain ⟨-, place_beneath⟩ := extend_beneath named (by simpa using filled) together
      rw [List.flatMap_singleton, Deed.beneath, moved_beneath key _ notice warning, ← place_beneath]
      rfl
  inside path place name together filled := .inr (extend_beneath named (by simpa using filled) together)

/-! ## The schema under the key -/

theorem lookup_of_entries (entries : List (String × Value)) (key : String) :
    (Value.ruleEntries entries).lookup key = (entries.lookup key).map Value.ruleObject := by
  induction entries with
  | nil => rfl
  | cons entry rest ih =>
    obtain ⟨name, v⟩ := entry
    simp only [Value.ruleEntries, List.lookup_cons]
    split
    · rfl
    · exact ih

/-- A mapping that lists no literals and has no item rule stands for a nested
rule with the rules of its entries. -/
theorem mapping_nested (kind : MappingKind) (no_enum : entries.lookup enumKey = none)
    (no_item : entries.lookup itemTypeKey = none) :
    Rule.ofAuthored (.mapping kind entries) = .nested (Rule.ofFields (Value.ruleEntries entries)) := by
  have no_item_object : (Value.ruleEntries entries).lookup itemTypeKey = none := by
    rw [lookup_of_entries, no_item]
    rfl
  simp [Rule.ofAuthored, Value.ruleObject, Value.mappingObject, no_enum, no_item_object, Rule.ofObject]

/-- A schema of one nested rule judges what is under its key below the key. -/
theorem judge_single_nested {inner : Schema} {record : List (String × Value)}
    (opens : Judge.record? (entries.lookup key) = some record) :
    judge.judgeFields "" entries [(key, .nested inner)] =
      (fun report => [(key, .branch report)]) <$> judge.judgeFields key record inner := by
  have path : extendPath defaultSeparator "" key = key := by simp [extendPath]
  simp [Judge.judgeFields, path, Judge.judge_field_record opens]

/-- A nested schema judges exactly like a stand-alone one. The schema is a
mapping that lists no literals and has no item rule; none of the keys of the schema it
stands for, at any depth, is empty, and neither is the key it is put under. Then,
from every state, judging a record or the mark of no value by the schema and judging
it under the key end in the same state: with the same report, which stands under the
key, or with the same fault. Both do the same deeds in order, where the warnings of
the one have their paths put below the key. A missing key is judged like an empty
record under it. -/
theorem nested_judges_alone (kind outer : MappingKind) (entries : List (String × Value))
    (no_enum : entries.lookup enumKey = none) (no_item : entries.lookup itemTypeKey = none)
    (filled : Schema.allKeys (!·.isEmpty) (Rule.ofFields (Value.ruleEntries entries)) = true)
    (key : String) (named : key ≠ "") (logger : String) (host : Host σ) (v : Value)
    (record : v = .undefined ∨ ∃ shape inner, v = .mapping shape inner) (state : σ) :
    ∃ alone inside, Validator.ofAuthored (.mapping kind entries) logger = .ok alone ∧
      Validator.ofAuthored (.mapping outer [(key, .mapping kind entries)]) logger = .ok inside ∧
      (∃ (result : Except Fault Report) (after : σ) (deeds : List Deed), (∀ deed ∈ deeds, deed.IsBy host) ∧
        alone.Finds host v state ⟨result, after, deeds.flatMap (Deed.events logger)⟩ ∧
        ∀ shape, inside.Finds host (.mapping shape [(key, v)]) state
          ⟨result.map fun report => [(key, .branch report)], after,
            deeds.flatMap fun deed => (deed.beneath key).events logger⟩) ∧
      ∀ shape shape' inner, inside.validate host (.mapping shape []) state =
        inside.validate host (.mapping shape' [(key, .mapping inner [])]) state := by
  let judge : Judge σ := ⟨host, logger⟩
  let fields := Rule.ofFields (Value.ruleEntries entries)
  let inside : Validator := ⟨Value.ruleEntries [(key, .mapping kind entries)], logger⟩
  have inside_schema : inside.schema = [(key, .nested fields)] :=
    congrArg (fun rule => [(key, rule)]) (mapping_nested kind no_enum no_item)
  have opens : Judge.record? (some v) = some (v.entries?.getD []) := by
    rcases record with rfl | ⟨shape, inner, rfl⟩ <;> rfl
  refine ⟨⟨Value.ruleEntries entries, logger⟩, inside, rfl, rfl, ?_, fun shape shape' inner => ?_⟩
  · obtain ⟨result, after, deeds, by_host, ran, ran'⟩ :=
      (shifted judge key named).judge_fields fields (show AreBeneath key "" key from .inl ⟨rfl, rfl⟩) filled
        (fun _ _ => trivial) (v.entries?.getD []) state
    refine ⟨result, after, deeds, by_host, Validator.finds_iff.mpr ran, fun shape => Validator.finds_iff.mpr ?_⟩
    have found : Judge.record? (List.lookup key [(key, v)]) = some (v.entries?.getD []) := by
      simpa using opens
    rw [inside_schema]
    refine (congrFun (judge_single_nested found) state).trans ?_
    rw [Action.map_run]
    exact congrArg (fun outcome : Outcome σ Report =>
      (⟨outcome.result.map fun report => [(key, .branch report)], outcome.state, outcome.events⟩ :
        Outcome σ Report)) ran'
  · have empty : Judge.record? (List.lookup key [(key, Value.mapping inner [])]) = some [] := by
      simp [Judge.record?, Value.entries?]
    have absent : judge.judgeFields "" [] inside.schema =
        judge.judgeFields "" [(key, .mapping inner [])] inside.schema := by
      rw [inside_schema, judge_single_nested rfl, judge_single_nested empty]
    exact congrFun (congrArg (fun judging : Action σ Report => judging >>= fun report => do
      .log logger (.judged report)
      pure report) absent) state

/-- An address with a place that has an unrecognized rule: judged under its key,
the same call is made, the same report stands there, and the warning is told of
a longer path. -/
theorem walkthrough_address_alone :
    let entries := [("zip", Value.callable Walkthrough.isDigits), ("place", .mapping .plain [("north", .int 5)])]
    let address := Value.mapping .plain [("zip", .text "12345"), ("place", .mapping .plain [("north", .int 51)])]
    let report : Report := [("zip", .leaf true), ("place", .branch [("north", .leaf false)])]
    let events (path : String) : List Event := [.called Walkthrough.isDigits (.text "12345"),
      .logged validatorLogger (.unrecognizedRule path (.int 5))]
    entries.lookup enumKey = none ∧ entries.lookup itemTypeKey = none ∧
    Schema.allKeys (!·.isEmpty) (Rule.ofFields (Value.ruleEntries entries)) = true ∧
    ∃ inside, Validator.ofAuthored (.mapping .plain [("address", .mapping .plain entries)]) validatorLogger =
      .ok inside ∧
    ∃ deeds : List Deed, deeds.flatMap (Deed.events validatorLogger) = events "place.north" ∧
      (deeds.flatMap fun deed => (deed.beneath "address").events validatorLogger) = events "address.place.north" ∧
      inside.Finds Walkthrough.host (.mapping .plain [("address", address)]) []
        ⟨.ok [("address", .branch report)], [(1, 1)],
          deeds.flatMap fun deed => (deed.beneath "address").events validatorLogger⟩ := by
  intro entries address report events
  have filled : Schema.allKeys (!·.isEmpty) (Rule.ofFields (Value.ruleEntries entries)) = true := by decide
  obtain ⟨alone, inside, built, built', ⟨result, after, deeds, -, found, found'⟩, -⟩ :=
    nested_judges_alone .plain .plain entries rfl rfl filled "address" (by decide) validatorLogger Walkthrough.host
      address (.inr ⟨.plain, _, rfl⟩) []
  cases built
  cases built'
  obtain ⟨rfl, rfl, told⟩ := Outcome.mk.inj (Validator.finds_iff.mp found)
  refine ⟨rfl, rfl, filled, _, rfl, deeds, told.symm, ?_, found' .plain⟩
  exact (Outcome.mk.inj (Validator.finds_iff.mp (found' .plain))).2.2.symm

end NestedRecords
end RecordSchema
