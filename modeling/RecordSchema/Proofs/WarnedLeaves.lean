import RecordSchema.Proofs.FaultOrigins

/-! Warnings beside leaves. A warning is told of while a field is judged, and the
leaf that it is about stands in the report later. The two are brought together by
the visits of a run: the places where it settles a leaf, each with what it has
there and with the state of the predicates it comes in. A visit gives one leaf and at
most one warning, at the path of the leaf, and only if the leaf has failed. -/
namespace RecordSchema

/-- The warning that an event is. -/
def Event.warning? : Event → Option Notice
  | .logged _ notice => if notice.level = .warning then some notice else none
  | .called _ _ => none

/-- The warnings among events, in order. -/
def warningsOf (events : List Event) : List Notice := events.filterMap Event.warning?

variable {σ : Type}

/-- A callee tells no logger of anything. -/
def Host.Quiet (host : Host σ) (callee : Callable) : Prop :=
  ∀ v state logger notice, .logged logger notice ∉ (host callee v state).events

/-- A place where a run settles a leaf: its path, what is under its key, the rule
there, and the state of the predicates that the run comes in. -/
structure Visit (σ : Type) where
  path : String
  slot : Option Value
  rule : Rule
  before : σ

mutual
/-- The visits of a run that judges what is under a key. Below a nested rule that
meets no record there is none. -/
def Rule.visits (judge : Judge σ) (path : String) (slot : Option Value) (state : σ) : Rule → List (Visit σ)
  | .nested fields => match Judge.record? slot with
    | some entries => Schema.visits judge path entries state fields
    | none => [⟨path, slot, .nested fields, state⟩]
  | rule => [⟨path, slot, rule, state⟩]
termination_by structural rule => rule

/-- The visits of a run that judges a record. -/
def Schema.visits (judge : Judge σ) (path : String) (entries : List (String × Value)) (state : σ) :
    List (String × Rule) → List (Visit σ)
  | [] => []
  | (key, rule) :: rest =>
    rule.visits judge (extendPath defaultSeparator path key) (entries.lookup key) state ++
      Schema.visits judge path entries (judge.judgeField (extendPath defaultSeparator path key)
        (entries.lookup key) rule state).state rest
termination_by structural fields => fields
end

/-- Trying a value by members comes to one of them: those before it pass. -/
def Judge.ComesTo (judge : Judge σ) (path : String) (members : List Rule) (v : Value) (state : σ)
    (member : Rule) : Prop :=
  ∃ earlier later, members = earlier ++ member :: later ∧ (judge.checkMembers path earlier v state).result = .ok true

/-- An array rule whose items cannot be judged meets some. -/
def Rule.MeetsUnsupportedItems (item : Rule) (v : Value) : Prop :=
  item.isScalar = false ∧ ∃ first others, Judge.elements? v = some (first :: others)

/-- The warning that is due where a rule meets a present value in some state. -/
inductive Judge.Warns (judge : Judge σ) (path : String) : Rule → Option Value → σ → Notice → Prop where
  | notARecord {fields : Schema} {v : Value} {state : σ} (obstructs : v.Obstructs) :
      Judge.Warns judge path (.nested fields) (some v) state (.notARecord path v.typeName)
  | unrecognized {raw v : Value} {state : σ} :
      Judge.Warns judge path (.unrecognized raw) (some v) state (.unrecognizedRule path raw)
  | items {item : Rule} {v : Value} {state : σ} (unsupported : item.MeetsUnsupportedItems v) :
      Judge.Warns judge path (.array item) (some v) state (.unsupportedItem path item.typeName)
  | member {members : List Rule} {member : Rule} {v : Value} {state : σ}
      (came : judge.ComesTo path members v state member) (complex : member.isSimple = false) :
      Judge.Warns judge path (.composite members) (some v) state (.unsupportedMember path member.typeName)
  | memberItems {members : List Rule} {item : Rule} {v : Value} {state : σ}
      (came : judge.ComesTo path members v state (.array item)) (unsupported : item.MeetsUnsupportedItems v) :
      Judge.Warns judge path (.composite members) (some v) state (.unsupportedItem path item.typeName)

/-- A check tells the logger of what is due: nothing, or a single warning, and
then it fails. -/
def Outcome.Tells (outcome : Outcome σ Bool) (due : Notice → Prop) : Prop :=
  (warningsOf outcome.events = [] ∧ ∀ notice, ¬ due notice) ∨
    ∃ notice, warningsOf outcome.events = [notice] ∧ outcome.result = .ok false ∧ ∀ other, due other ↔ other = notice

/-- A leaf of a report, how a run came to it, and the warning that belongs to it. -/
structure Finding (σ : Type) extends Visit σ where
  passed : Bool
  warning : Option Notice

/-- A finding is what the visit gives: its leaf, and its warning exactly where one
is due, at the path of the leaf and only if it has failed. -/
structure Finding.Holds (judge : Judge σ) (finding : Finding σ) : Prop where
  settles : (judge.judgeField finding.path finding.slot finding.rule finding.before).result =
    .ok (.leaf finding.passed)
  due : ∀ notice, finding.warning = some notice ↔
    judge.Warns finding.path finding.rule finding.slot finding.before notice
  own : ∀ notice, finding.warning = some notice → finding.passed = false ∧ notice.path? = some finding.path

/-- Visits of a run answer the leaves of a report, one each, and the warnings of
the run are theirs, in the same order. -/
def Judge.Accounts (judge : Judge σ) (visits : List (Visit σ)) (leaves : List (String × Bool))
    (events : List Event) : Prop :=
  ∃ findings : List (Finding σ), findings.map (·.toVisit) = visits ∧
    leaves = findings.map (fun finding => (finding.path, finding.passed)) ∧
    warningsOf events = findings.filterMap (·.warning) ∧ ∀ finding ∈ findings, finding.Holds judge

namespace WarnedLeaves

variable {judge : Judge σ} {path : String} {rule item member : Rule} {members rest : List Rule} {v : Value}
  {slot : Option Value} {state after middle : σ} {events : List Event} {due : Notice → Prop}

/-! ## What checks tell -/

@[simp] theorem warnings_append (first second : List Event) :
    warningsOf (first ++ second) = warningsOf first ++ warningsOf second := List.filterMap_append

/-- Calls that tell no logger warn of nothing. -/
private def unwarned (judge : Judge σ) : judge.Upkeep judge.host.Quiet where
  upheld _ _ events := warningsOf events = []
  still _ := rfl
  onward head tail := by rw [warnings_append, head, tail, List.append_nil]
  calls callee v quiet state := by
    obtain ⟨result, after, ran⟩ := judge.holds_run callee v state
    rw [ran]
    refine List.filterMap_eq_nil_iff.mpr (List.forall_mem_cons.mpr ⟨rfl, fun event left => ?_⟩)
    cases event with
    | called => rfl
    | logged logger notice => exact absurd left (quiet v state logger notice)
  warned := False
  warnings never := never.elim

theorem scalar_unwarned (scalar : rule.isScalar = true)
    (quiet : ∀ callee, .predicate callee ∈ rule.parts → judge.host.Quiet callee) (v : Value) (state : σ) :
    warningsOf (judge.checkSimple path rule v state).events = [] :=
  (unwarned judge).check_scalar scalar quiet v state

theorem elements_unwarned (scalar : item.isScalar = true)
    (quiet : ∀ callee, .predicate callee ∈ item.parts → judge.host.Quiet callee) (elements : List Value) (state : σ) :
    warningsOf (Judge.allPass (judge.checkSimple path item) elements state).events = [] :=
  (unwarned judge).all_pass (scalar_unwarned scalar quiet) elements state

theorem tells_nothing {outcome : Outcome σ Bool} (nothing : warningsOf outcome.events = [])
    (none_due : ∀ notice, ¬ due notice) : outcome.Tells due :=
  .inl ⟨nothing, none_due⟩

theorem tells_congr {due' : Notice → Prop} {outcome : Outcome σ Bool} (same : ∀ notice, due notice ↔ due' notice)
    (tells : outcome.Tells due) : outcome.Tells due' := by
  rcases tells with ⟨nothing, none_due⟩ | ⟨notice, told, failed, only⟩
  · exact .inl ⟨nothing, fun notice wanted => none_due notice ((same notice).mpr wanted)⟩
  · exact .inr ⟨notice, told, failed, fun other => (same other).symm.trans (only other)⟩

/-- A failure that the logger is told of. -/
theorem warned_tells (notice : Notice) (warning : notice.level = .warning)
    (only : ∀ other, due other ↔ other = notice) :
    ((do judge.warn notice; pure false : Action σ Bool) state).Tells due := by
  refine .inr ⟨notice, ?_, rfl, only⟩
  change warningsOf [.logged judge.logger notice] = [notice]
  simp [warningsOf, Event.warning?, warning]

theorem check_simple_tells (simple : rule.isSimple = true) (sound : rule.isSound = true)
    (quiet : ∀ callee, .predicate callee ∈ rule.parts → judge.host.Quiet callee) :
    (judge.checkSimple path rule v state).Tells (judge.Warns path rule (some v) state) := by
  cases rule with
  | array item =>
    rw [Judge.checkSimple]
    cases array : Judge.elements? v with
    | none =>
      refine tells_nothing rfl ?_
      rintro _ (_ | _ | ⟨-, _, _, some⟩)
      rw [array] at some
      cases some
    | some elements =>
      simp only
      split
      next scalar =>
        refine tells_nothing (elements_unwarned scalar quiet elements state) ?_
        rintro _ (_ | _ | ⟨complex, -⟩)
        rw [scalar] at complex
        cases complex
      next complex =>
        cases elements with
        | nil =>
          refine tells_nothing rfl ?_
          rintro _ (_ | _ | ⟨-, _, _, some⟩)
          rw [array] at some
          cases some
        | cons first others =>
          refine warned_tells _ rfl fun other => ⟨?_, ?_⟩
          · rintro (_ | _ | _)
            rfl
          · rintro rfl
            exact .items ⟨by simpa using complex, first, others, array⟩
  | composite | nested | unrecognized => cases simple
  | foreign | broken => cases sound
  | _ => exact tells_nothing (scalar_unwarned rfl quiet v state) (by rintro _ ⟨⟩)

/-- One check after another tells what is due of the first one and, where that
one passes, what is due of the second one. -/
theorem tells_and {first next : Action σ Bool} {due_first due_next : Notice → Prop}
    (head : (first state).Tells due_first)
    (tail : (first state).result = .ok true → (next (first state).state).Tells due_next)
    (split : ∀ notice, due notice ↔ due_first notice ∨ (first state).result = .ok true ∧ due_next notice) :
    ((do if ← first then next else pure false : Action σ Bool) state).Tells due := by
  -- Only a first check that passes lets the second one tell anything, and one that passes has told nothing.
  rcases ran : first state with ⟨fault | b, middle, events⟩ <;> rw [ran] at head tail split
  · have all_due : ∀ notice, due_first notice ↔ due notice := by simp [split]
    rw [Action.bind_of_error ran]
    rcases head with ⟨nothing, none_due⟩ | ⟨_, _, failed, _⟩
    · exact tells_congr all_due (.inl ⟨nothing, none_due⟩)
    · cases failed
  · cases b with
    | false =>
      have all_due : ∀ notice, due_first notice ↔ due notice := by simp [split]
      have stopped : (if false = true then next else pure false : Action σ Bool) middle = ⟨.ok false, middle, []⟩ := rfl
      rw [Action.bind_runs ran stopped, List.append_nil]
      exact tells_congr all_due head
    | true =>
      rcases head with ⟨nothing, none_due⟩ | ⟨_, _, failed, _⟩
      · have all_due : ∀ notice, due_next notice ↔ due notice := by simp [split, none_due]
        rw [Action.bind_of_ok ran]
        rcases tail rfl with ⟨silence, undue⟩ | ⟨notice, told, failed, only⟩
        · exact tells_congr all_due (.inl ⟨by rw [warnings_append, nothing]; exact silence, undue⟩)
        · exact tells_congr all_due (.inr ⟨notice, by rw [warnings_append, nothing]; exact told, failed, only⟩)
      · cases failed

/-- Trying members comes to the first one, and to another one if the first one
passes and the others come to it. -/
theorem comes_to_cons : judge.ComesTo path (rule :: rest) v state member ↔ member = rule ∨
    rule.isSimple = true ∧ (judge.checkSimple path rule v state).result = .ok true ∧
      judge.ComesTo path rest v (judge.checkSimple path rule v state).state member := by
  constructor
  · rintro ⟨earlier, later, split, passed⟩
    cases earlier with
    | nil =>
      cases split
      exact .inl rfl
    | cons first earlier =>
      cases split
      rw [Judge.checkMembers] at passed
      split at passed
      next simple =>
        obtain ⟨b, first_passed, others⟩ := Action.bind_returns.mp passed
        cases b with
        | false => cases others
        | true => exact .inr ⟨simple, first_passed, earlier, later, rfl, others⟩
      next complex => cases passed
  · rintro (rfl | ⟨simple, passed, earlier, later, rfl, others⟩)
    · exact ⟨[], rest, rfl, rfl⟩
    · refine ⟨rule :: earlier, later, rfl, ?_⟩
      rw [Judge.checkMembers, if_pos simple]
      exact Action.bind_returns.mpr ⟨true, passed, others⟩

/-- What is due of members is what is due of the first one and, where that one
passes, of the others. -/
theorem members_due {notice : Notice} (simple : rule.isSimple = true) :
    judge.Warns path (.composite (rule :: rest)) (some v) state notice ↔
      judge.Warns path rule (some v) state notice ∨
        (judge.checkSimple path rule v state).result = .ok true ∧
          judge.Warns path (.composite rest) (some v) (judge.checkSimple path rule v state).state notice := by
  constructor
  · rintro (_ | _ | _ | ⟨came, complex⟩ | ⟨came, unsupported⟩)
    · rcases comes_to_cons.mp came with rfl | ⟨-, passed, later⟩
      · rw [simple] at complex
        cases complex
      · exact .inr ⟨passed, .member later complex⟩
    · rcases comes_to_cons.mp came with rfl | ⟨-, passed, later⟩
      · exact .inl (.items unsupported)
      · exact .inr ⟨passed, .memberItems later unsupported⟩
  · rintro (first | ⟨passed, others⟩)
    · cases first with
      | items unsupported => exact .memberItems (comes_to_cons.mpr (.inl rfl)) unsupported
      | notARecord | unrecognized | member | memberItems => cases simple
    · cases others with
      | member came complex => exact .member (comes_to_cons.mpr (.inr ⟨simple, passed, came⟩)) complex
      | memberItems came unsupported =>
        exact .memberItems (comes_to_cons.mpr (.inr ⟨simple, passed, came⟩)) unsupported

/-- A first member of a kind that members cannot have is what is warned of. -/
theorem complex_member_due {notice : Notice} (complex : rule.isSimple = false) :
    judge.Warns path (.composite (rule :: rest)) (some v) state notice ↔
      notice = .unsupportedMember path rule.typeName := by
  constructor
  · rintro (_ | _ | _ | ⟨came, _⟩ | ⟨came, _⟩)
    · rcases comes_to_cons.mp came with rfl | ⟨simple, -⟩
      · rfl
      · rw [complex] at simple
        cases simple
    · rcases comes_to_cons.mp came with rfl | ⟨simple, -⟩
      · cases complex
      · rw [complex] at simple
        cases simple
  · rintro rfl
    exact .member (comes_to_cons.mpr (.inl rfl)) complex

theorem check_members_tells (sound : Rule.areSound members = true)
    (quiet : ∀ callee, .predicate callee ∈ Rule.memberParts members → judge.host.Quiet callee) :
    (judge.checkMembers path members v state).Tells (judge.Warns path (.composite members) (some v) state) := by
  induction members generalizing state with
  | nil =>
    refine tells_nothing rfl ?_
    rintro _ (_ | _ | _ | ⟨⟨_, _, split, -⟩, _⟩ | ⟨⟨_, _, split, -⟩, _⟩) <;> simp at split
  | cons member rest ih =>
    rw [Rule.areSound, Bool.and_eq_true] at sound
    rw [Judge.checkMembers]
    split
    next simple =>
      refine tells_and (check_simple_tells simple sound.1 fun callee part => quiet callee ?_)
        (fun _ => ih sound.2 fun callee part => quiet callee ?_) fun notice => members_due simple
      · exact List.mem_append_left _ part
      · exact List.mem_append_right _ part
    next complex => exact warned_tells _ rfl fun other => complex_member_due (by simpa using complex)

theorem check_present_tells (plain : ∀ inner, rule ≠ .nested inner) (sound : rule.isSound = true)
    (quiet : ∀ callee, .predicate callee ∈ rule.parts → judge.host.Quiet callee) :
    (judge.checkPresent path rule v state).Tells (judge.Warns path rule (some v) state) := by
  cases rule with
  | composite members => exact check_members_tells sound quiet
  | unrecognized raw =>
    refine warned_tells _ rfl fun other => ⟨?_, ?_⟩
    · rintro (_ | _)
      rfl
    · rintro rfl
      exact .unrecognized
  | nested inner => exact absurd rfl (plain inner)
  | foreign | broken => cases sound
  | _ => exact check_simple_tells rfl sound quiet

/-- Judging a leaf tells the logger of what is due. Absence is never warned of. -/
theorem judge_leaf_tells (plain : ∀ inner, rule ≠ .nested inner) (sound : rule.isSound = true)
    (quiet : ∀ callee, .predicate callee ∈ rule.parts → judge.host.Quiet callee) :
    (judge.judgeLeaf path slot rule state).Tells (judge.Warns path rule slot state) := by
  unfold Judge.judgeLeaf
  split
  · cases sound
  · exact tells_nothing rfl (by rintro _ ⟨⟩)
  · exact tells_nothing rfl (by rintro _ ⟨⟩)
  · cases slot with
    | none => exact tells_nothing rfl (by rintro _ ⟨⟩)
    | some v => exact check_present_tells plain sound quiet

/-! ## From leaf to leaf -/

theorem warns_path {notice : Notice} (due : judge.Warns path rule slot state notice) : notice.path? = some path := by
  cases due <;> rfl

/-- A visit that returns a leaf and tells what is due accounts for it. -/
theorem single_accounts {passed : Bool} (settled : (judge.judgeField path slot rule state).result = .ok (.leaf passed))
    (told : (⟨.ok passed, after, events⟩ : Outcome σ Bool).Tells (judge.Warns path rule slot state)) :
    judge.Accounts [⟨path, slot, rule, state⟩] [(path, passed)] events := by
  rcases told with ⟨nothing, none_due⟩ | ⟨notice, told, failed, only⟩
  · refine ⟨[⟨⟨path, slot, rule, state⟩, passed, none⟩], rfl, rfl, nothing,
      List.forall_mem_singleton.mpr ⟨settled, ?_, ?_⟩⟩
    · exact fun notice => ⟨nofun, fun due => absurd due (none_due notice)⟩
    · exact fun notice => nofun
  · refine ⟨[⟨⟨path, slot, rule, state⟩, passed, some notice⟩], rfl, rfl, told,
      List.forall_mem_singleton.mpr ⟨settled, ?_, ?_⟩⟩
    · exact fun other => by simp [only, eq_comm]
    · rintro _ ⟨⟩
      exact ⟨Except.ok.inj failed, warns_path ((only notice).mpr rfl)⟩

theorem accounts_append {visits others : List (Visit σ)} {leaves more : List (String × Bool)}
    {events later : List Event} (first : judge.Accounts visits leaves events)
    (second : judge.Accounts others more later) :
    judge.Accounts (visits ++ others) (leaves ++ more) (events ++ later) := by
  obtain ⟨findings, rfl, rfl, told, holds⟩ := first
  obtain ⟨findings', rfl, rfl, told', holds'⟩ := second
  refine ⟨findings ++ findings', by simp, by simp, ?_, List.forall_mem_append.mpr ⟨holds, holds'⟩⟩
  rw [warnings_append, told, told', List.filterMap_append]

theorem visits_leaf (leaf : rule.kind? ≠ some .nested) :
    rule.visits judge path slot state = [⟨path, slot, rule, state⟩] := by
  cases rule with
  | nested fields => exact absurd rfl (Rule.leaf_plain leaf fields)
  | _ => rfl

theorem visits_record {fields : Schema} {entries : List (String × Value)} (record : Judge.record? slot = some entries) :
    (Rule.nested fields).visits judge path slot state = Schema.visits judge path entries state fields := by
  simp [Rule.visits, record]

theorem visits_refused {fields : Schema} (refused : Judge.record? slot = none) :
    (Rule.nested fields).visits judge path slot state = [⟨path, slot, .nested fields, state⟩] := by
  simp [Rule.visits, refused]

/-- A nested rule with a value in its way accounts for its failure. -/
theorem refused_accounts {fields : Schema} {verdict : Verdict} (refused : Judge.record? (some v) = none)
    (obstructs : v.Obstructs)
    (judged : judge.judgeField path (some v) (.nested fields) state = ⟨.ok verdict, after, events⟩) :
    judge.Accounts ((Rule.nested fields).visits judge path (some v) state) (verdict.leaves defaultSeparator path)
      events := by
  have settled := congrArg Outcome.result judged
  rw [Judge.judge_field_refused refused, Judge.refuse_nested_run] at judged
  cases judged
  rw [visits_refused refused]
  refine single_accounts settled (?_ : (⟨.ok false, state, _⟩ : Outcome σ Bool).Tells _)
  refine .inr ⟨_, rfl, rfl, fun other => ⟨?_, ?_⟩⟩
  · rintro (_ | _)
    rfl
  · rintro rfl
    exact .notARecord obstructs

/-- A run over a record accounts for the leaves of its report. -/
theorem judge_fields_accounts {entries : List (String × Value)} {report : Report} (fields : Schema)
    (sound : Schema.isSound fields = true)
    (quiet : ∀ callee, .predicate callee ∈ Schema.parts fields → judge.host.Quiet callee)
    (ran : judge.judgeFields path entries fields state = ⟨.ok report, after, events⟩) :
    judge.Accounts (Schema.visits judge path entries state fields)
      (Report.leavesBelow defaultSeparator path report) events := by
  induction fields using Schema.induction generalizing path entries state report after events with
  | nil =>
    cases ran
    exact ⟨[], rfl, rfl, rfl, by simp⟩
  | leaf key rule rest leaf ih =>
    simp only [Schema.isSound, Bool.and_eq_true] at sound
    obtain ⟨verdict, middle, before, below, more, judged, others, rfl, rfl⟩ := Judge.judge_fields_cons_ends ran
    rw [Schema.visits, judged, visits_leaf leaf, Report.leavesBelow]
    refine accounts_append ?_ (ih sound.2 (fun callee part => quiet callee (List.mem_append_right _ part)) others)
    have settled := congrArg Outcome.result judged
    rw [Judge.judge_field_leaf leaf] at judged
    obtain ⟨passed, checked, rfl⟩ := Action.map_ends judged
    refine single_accounts settled (?_ : (⟨.ok passed, middle, before⟩ : Outcome σ Bool).Tells _)
    rw [← checked]
    exact judge_leaf_tells (Rule.leaf_plain leaf) sound.1 fun callee part =>
      quiet callee (List.mem_append_left _ part)
  | broken key fault rest ih => simp [Schema.isSound, Rule.isSound] at sound
  | nested key inner rest inside after_it =>
    simp only [Schema.isSound, Rule.isSound, Bool.and_eq_true] at sound
    obtain ⟨verdict, middle, before, below, more, judged, others, rfl, rfl⟩ := Judge.judge_fields_cons_ends ran
    rw [Schema.visits, judged, Report.leavesBelow]
    refine accounts_append ?_ (after_it sound.2 (fun callee part => quiet callee (List.mem_append_right _ part)) others)
    cases record : Judge.record? (entries.lookup key) with
    | none =>
      obtain ⟨v, found, obstructs⟩ := PathVerdicts.record_obstructed.mp record
      rw [found] at judged record ⊢
      exact refused_accounts record obstructs judged
    | some found =>
      rw [Judge.judge_field_record record] at judged
      obtain ⟨report, returned, rfl⟩ := Action.map_ends judged
      rw [visits_record record, Verdict.leaves]
      exact inside sound.1 (fun callee part => quiet callee (List.mem_append_left _ part)) returned

/-- The paths that are warned of are among those that have failed, in order. -/
theorem warned_paths (findings : List (Finding σ)) (holds : ∀ finding ∈ findings, finding.Holds judge) :
    ∃ paths : List String, (findings.filterMap (·.warning)).map Notice.path? = paths.map some ∧
      paths.Sublist (((findings.map fun finding => (finding.path, finding.passed)).filter (!·.2)).map (·.1)) := by
  induction findings with
  | nil => exact ⟨[], rfl, .slnil⟩
  | cons finding rest ih =>
    obtain ⟨here, others⟩ := List.forall_mem_cons.mp holds
    obtain ⟨paths, told, among⟩ := ih others
    cases warning : finding.warning with
    | none =>
      refine ⟨paths, by simpa [warning] using told, ?_⟩
      cases passed : finding.passed with
      | true => simpa [passed] using among
      | false => simpa [passed] using among.cons finding.path
    | some notice =>
      obtain ⟨failed, own⟩ := here.own notice warning
      exact ⟨finding.path :: paths, by simp [warning, own, told], by simpa [failed] using among⟩

/-- Warnings and failures correspond. The validator is built from an authored
schema in which rule objects built by hand, if any, are sound, and predicates tell no
logger. Then a validation that returns accounts for its report: every leaf answers a
visit of the run, and the warnings of the run, in order, are those of its visits. A
visit has a warning exactly where one is due, and then only one, at the path of its
leaf, which has failed. So the paths that are warned of are those of failures, with
some left out and in the same order. -/
theorem warnings_match_failures {authored : Value} {logger : String} {validator : Validator}
    (built : Validator.ofAuthored authored logger = .ok validator)
    (sound : Value.haveSoundRules (authored.entries?.getD []) = true) (host : Host σ)
    (quiet : ∀ callee, .predicate callee ∈ Schema.parts validator.schema → host.Quiet callee) (data : Value)
    (state after : σ) (report : Report) (events : List Event)
    (returned : validator.validate host data state = ⟨.ok report, after, events⟩) :
    (validator.judge host).Accounts
      (Schema.visits (validator.judge host) "" (data.entries?.getD []) state validator.schema)
      (report.leaves defaultSeparator) events ∧
    ∃ paths : List String, (warningsOf events).map Notice.path? = paths.map some ∧
      paths.Sublist (report.failures defaultSeparator) := by
  obtain ⟨found, finds⟩ : ∃ found, validator.Finds host data state found := ⟨_, Validator.finds_iff.mpr rfl⟩
  have judged := Validator.finds_iff.mp finds
  rw [Validator.Finds, returned] at finds
  obtain ⟨_ | other, final, own⟩ := found
  · cases finds
  cases finds
  have accounts : (validator.judge host).Accounts
      (Schema.visits (validator.judge host) "" (data.entries?.getD []) state validator.schema)
      (report.leaves defaultSeparator) own :=
    judge_fields_accounts validator.schema (RuleSoundness.validator_sound built sound) quiet judged
  obtain ⟨findings, visited, leaves, told, holds⟩ := accounts
  have recorded : warningsOf (own ++ [.logged validator.logger (.judged report)]) = warningsOf own := by
    rw [warnings_append]
    exact List.append_nil _
  rw [recorded]
  refine ⟨⟨findings, visited, leaves, recorded.trans told, holds⟩, ?_⟩
  rw [told, Report.failures, leaves]
  exact warned_paths findings holds

/-- In the walkthrough, four fields fail and the logger is told of the one whose
value is in the way of the rules below it. -/
theorem walkthrough_warnings :
    let data := Value.mapping .plain [("name", .text "Ada"), ("balance", .int (-5)), ("address", .text "London")]
    let report : Report := [("name", .leaf true), ("status", .leaf false), ("balance", .leaf false),
      ("tags", .leaf false), ("deleted", .leaf true), ("address", .leaf false)]
    let warning := Notice.notARecord "address" "str"
    let events : List Event := [.called Walkthrough.isPositive (.int (-5)), .logged validatorLogger warning,
      .logged validatorLogger (.judged report)]
    Value.haveSoundRules Walkthrough.fields = true ∧
    (∀ callee, .predicate callee ∈ Schema.parts Walkthrough.validator.schema → Walkthrough.host.Quiet callee) ∧
    Walkthrough.validator.validate Walkthrough.host data [] = ⟨.ok report, [(0, 1)], events⟩ ∧
    warningsOf events = [warning] ∧ report.failures defaultSeparator = ["status", "balance", "tags", "address"] ∧
    (Walkthrough.validator.judge Walkthrough.host).Accounts
      (Schema.visits (Walkthrough.validator.judge Walkthrough.host) "" (data.entries?.getD []) []
        Walkthrough.validator.schema) (report.leaves defaultSeparator) events := by
  intro data report warning events
  have built : Validator.ofAuthored (.mapping .plain Walkthrough.fields) validatorLogger =
      .ok Walkthrough.validator := rfl
  have quiet : ∀ callee, .predicate callee ∈ Schema.parts Walkthrough.validator.schema →
      Walkthrough.host.Quiet callee := by
    intro callee _ v state logger notice
    have silent : (Walkthrough.host callee v state).events = [] :=
      FaultOrigins.catalogue_silent (by simp [Walkthrough.catalogue]) callee v state
    rw [silent]
    exact List.not_mem_nil
  have returned : Walkthrough.validator.validate Walkthrough.host data [] = ⟨.ok report, [(0, 1)], events⟩ := rfl
  exact ⟨rfl, quiet, returned, rfl, rfl,
    (warnings_match_failures built rfl Walkthrough.host quiet data [] _ report events returned).1⟩

end WarnedLeaves
end RecordSchema
