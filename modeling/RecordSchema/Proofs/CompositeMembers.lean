import RecordSchema.Proofs.CheckSequences
import RecordSchema.Proofs.RunHistories

/-! The members of a composite. A composite asks its members in order whether they pass the
value, and comes to an end with the first that does not. So it can be taken apart at any
place, nothing after the first failure can be seen, and a single member judges as it does
on its own, unless it is of a kind that members cannot have. Where calls answer by their
arguments alone, the order of the members and their repetitions cannot be seen either. -/
namespace RecordSchema.CompositeMembers

variable {σ : Type} {judge : Judge σ} {path : String} {member : Rule} {members : List Rule} {v : Value}

theorem composite_judged (judge : Judge σ) (path : String) (members : List Rule) (v : Value) :
    judge.judgeField path (some v) (.composite members) = Verdict.leaf <$> judge.checkMembers path members v := rfl

/-! ## A single member -/

theorem check_single (member : Rule) : judge.checkMembers path [member] v = judge.checkMember path v member := by
  rw [CheckSequences.check_members_every, CheckSequences.every_single]

/-- A rule of a kind that members can have is no nested rule, so what is under its key is
judged to a leaf. -/
theorem simple_leaf (simple : member.isSimple = true) : member.kind? ≠ some .nested := by
  intro nested
  simp [Rule.isSimple, Rule.isScalar, nested] at simple

/-- The two tags that have a say in absence judge a value that is present as every other
tag does. -/
theorem judge_leaf_simple (simple : member.isSimple = true) (determined : member ≠ .primitive .undetermined) :
    judge.judgeLeaf path (some v) member = judge.checkSimple path member v := by
  cases member with
  | primitive tag =>
    cases tag with
    | undetermined => exact absurd rfl determined
    | null =>
      have same : (some v.kind == some Kind.null) = (v.kind == Kind.null) := rfl
      simp [Judge.judgeLeaf, Judge.checkSimple, Tag.accepts, same]
    | _ => rfl
  | composite | nested | unrecognized | foreign => cases simple
  | broken kind fault =>
    cases kind with
    | composite | nested | unrecognized => cases simple
    | _ => rfl
  | _ => rfl

theorem single_judges_alike (simple : member.isSimple = true) (determined : member ≠ .primitive .undetermined) :
    judge.judgeField path (some v) (.composite [member]) = judge.judgeField path (some v) member := by
  rw [composite_judged, Judge.judge_field_leaf (simple_leaf simple), judge_leaf_simple simple determined, check_single,
    Judge.checkMember, if_pos simple]

theorem single_refused (complex : member.isSimple = false) (state : σ) :
    judge.judgeField path (some v) (.composite [member]) state =
      ⟨.ok (.leaf false), state, [.logged judge.logger (.unsupportedMember path member.typeName)]⟩ := by
  rw [composite_judged, check_single, Judge.checkMember, complex]
  rfl

/-! ## Members in another order -/

/-- A member whose calls answer by their arguments alone ends alike from every state. -/
theorem check_single_steady (steady : ∀ callee, .predicate callee ∈ member.parts → judge.host.Steady callee) :
    (judge.checkMembers path [member] v).EndAlike (judge.checkMembers path [member] v) := by
  have told : judge.WarnAlike judge (RunHistories.sameResults judge judge).alike path path := fun _ _ _ _ => rfl
  refine (RunHistories.sameResults judge judge).check_members [member] told fun callee part => steady callee ?_
  simpa [Rule.memberParts] using part

/-- Where every member settles on its own, all of them together settle on whether each
one passes. -/
theorem members_settle (each : ∀ member ∈ members, ∃ passed, (judge.checkMembers path [member] v).Settles passed) :
    ∃ passed, (judge.checkMembers path members v).Settles passed ∧
      (passed = true ↔ ∀ member ∈ members, (judge.checkMembers path [member] v).Settles true) := by
  apply RunHistories.decided_settles
  rw [CheckSequences.check_members_every]
  apply CheckSequences.every_decides
  intro member among
  obtain ⟨passed, settled⟩ := each member among
  rw [← check_single]
  exact RunHistories.settled_decides settled

theorem member_settles (steady : ∀ callee, .predicate callee ∈ Rule.memberParts members → judge.host.Steady callee)
    (among : member ∈ members) {state : σ} {passed : Bool}
    (returned : (judge.checkMembers path [member] v state).result = .ok passed) :
    (judge.checkMembers path [member] v).Settles passed := by
  have alike : (judge.checkMembers path [member] v).EndAlike (judge.checkMembers path [member] v) :=
    check_single_steady fun callee part => steady callee (Acceptance.member_parts among part)
  exact fun state' => (alike state' state).trans returned

/-- A composite conjoins its members lazily, from the left to the right. For every value
under its key, every path and every state of the predicates: members and then others are
the members and, only if they pass, the others; after the first member that does not
pass, because it fails or because it does not return, other members make no difference;
a single scalar or array member judges just as the bare rule does, unless what stands for
its tag is the mark of a missing cell, and a single member of another kind fails and is
warned of once. If calls answer or
fail by their arguments alone and each member returns on its own, then the composite
returns whether all of them pass, and so does every composite of the same members in
another order or with other repetitions. -/
theorem members_conjoin_lazily (judge : Judge σ) (path : String) (v : Value) :
    (∀ members, judge.judgeField path (some v) (.composite members) =
      Verdict.leaf <$> judge.checkMembers path members v) ∧
    (∀ first second, judge.checkMembers path (first ++ second) v =
      (judge.checkMembers path first v).andThen (judge.checkMembers path second v)) ∧
    (∀ earlier member state, (judge.checkMembers path earlier v state).result = .ok true →
      (judge.checkMembers path [member] v (judge.checkMembers path earlier v state).state).result ≠ .ok true →
      ∀ later, judge.checkMembers path (earlier ++ member :: later) v state =
        judge.checkMembers path (earlier ++ [member]) v state) ∧
    (∀ member, member.isSimple = true → member ≠ .primitive .undetermined →
      judge.judgeField path (some v) (.composite [member]) = judge.judgeField path (some v) member) ∧
    (∀ member, member.isSimple = false → ∀ state, judge.judgeField path (some v) (.composite [member]) state =
      ⟨.ok (.leaf false), state, [.logged judge.logger (.unsupportedMember path member.typeName)]⟩) ∧
    (∀ members, (∀ callee, .predicate callee ∈ Rule.memberParts members → judge.host.Steady callee) →
      (∀ member ∈ members, ∃ state passed, (judge.checkMembers path [member] v state).result = .ok passed) →
      ∃ passed, (passed = true ↔ ∀ member ∈ members, (judge.checkMembers path [member] v).Settles true) ∧
        ∀ others, (∀ member, member ∈ others ↔ member ∈ members) →
          (judge.checkMembers path others v).Settles passed) := by
  refine ⟨fun members => composite_judged judge path members v, ?_, ?_, ?_, ?_, ?_⟩
  · intro first second
    simp only [CheckSequences.check_members_every, CheckSequences.every_append]
  · intro earlier member state passed stopped later
    rw [check_single] at stopped
    simp only [CheckSequences.check_members_every] at passed stopped ⊢
    exact CheckSequences.every_stopped passed stopped
  · intro member simple determined
    exact single_judges_alike simple determined
  · intro member complex state
    exact single_refused complex state
  · intro members steady returns
    have each : ∀ member ∈ members, ∃ passed, (judge.checkMembers path [member] v).Settles passed := by
      intro member among
      obtain ⟨state, passed, returned⟩ := returns member among
      exact ⟨passed, member_settles steady among returned⟩
    obtain ⟨passed, -, holds⟩ := members_settle each
    refine ⟨passed, holds, fun others same => ?_⟩
    obtain ⟨passed', settled, holds'⟩ := members_settle fun member among => each member ((same member).mp among)
    have agree : passed' = passed := by
      rw [Bool.eq_iff_iff, holds, holds']
      exact forall_congr' fun member => imp_congr_left (same member)
    exact agree ▸ settled

/-- A balance that must be a number above zero, at a number below it. The second member
fails, so a rule that is none can stand behind it unseen; as a single member it judges
like the bare predicate; and in the other order and twice it fails again. -/
theorem walkthrough_balance_members :
    let judge : Judge Tally := ⟨Catalogue.host [.above (.int 0)], validatorLogger⟩
    let positive := Rule.predicate Walkthrough.isPositive
    let overdrawn := Value.int (-5)
    let found := judge.checkMembers "balance" [.primitive .number, positive] overdrawn []
    found.result = .ok false ∧
    judge.checkMembers "balance" [.primitive .number, positive, .unrecognized .null] overdrawn [] = found ∧
    judge.judgeField "balance" (some overdrawn) (.composite [positive]) [] =
      judge.judgeField "balance" (some overdrawn) positive [] ∧
    judge.judgeField "balance" (some overdrawn) (.composite [.nested []]) [] =
      ⟨.ok (.leaf false), [], [.logged validatorLogger (.unsupportedMember "balance" "NestedRule")]⟩ ∧
    (judge.checkMembers "balance" [positive, .primitive .number, positive] overdrawn [(0, 7)]).result = .ok false := by
  intro judge positive overdrawn found
  obtain ⟨-, -, unseen, alike, refused, reordered⟩ := members_conjoin_lazily judge "balance" overdrawn
  have returned : found.result = .ok false := by rfl
  have first : (judge.checkMembers "balance" [.primitive .number] overdrawn []).result = .ok true := by rfl
  have second : (judge.checkMembers "balance" [positive] overdrawn []).result = .ok false := by rfl
  have stopped : (judge.checkMembers "balance" [positive] overdrawn
      (judge.checkMembers "balance" [.primitive .number] overdrawn []).state).result ≠ .ok true := by
    intro passed
    cases second.symm.trans passed
  have steady (callee : Callable) : judge.host.Steady callee :=
    RunHistories.catalogue_steady (by simp) (by simp) callee
  obtain ⟨passed, -, settled⟩ := reordered [.primitive .number, positive] (fun callee _ => steady callee) (by
    intro member among
    rcases List.mem_pair.mp among with rfl | rfl
    · exact ⟨[], true, first⟩
    · exact ⟨[], false, second⟩)
  have failed : passed = false :=
    Except.ok.inj ((settled [.primitive .number, positive] (fun _ => Iff.rfl) []).symm.trans returned)
  subst failed
  refine ⟨returned, unseen [.primitive .number] positive [] first stopped [.unrecognized .null], ?_, ?_, ?_⟩
  · rw [alike positive rfl (by simp [positive])]
  · exact refused (.nested []) rfl []
  · refine settled [positive, .primitive .number, positive] (fun member => ?_) [(0, 7)]
    simp only [List.mem_cons, List.not_mem_nil, or_false]
    tauto

end RecordSchema.CompositeMembers
