import RecordSchema.Proofs.Comparison
import RecordSchema.Proofs.CompositeMembers

/-! Tags beside literals. A type tag looks at the kind of a value, and so does strict equality
before it looks at anything else. Two tags look closer: the tag of bare objects asks for
their type, which strict equality compares as well, and the tag of integers asks for
the format of a number, which strict equality passes over. So a literal cannot stand for a
value of another tag, unless it is the tag of integers, and a tag that all literals of an
enumeration carry says nothing beside it. -/
namespace RecordSchema.TaggedLiterals

open Value

variable {σ : Type} {name : String} {tag : Tag} {v w : Value} {literals : List Value}

/-- The bare type is that of bare objects alone. -/
theorem bare_type : v.type = .own "object" ↔ ∃ id, v = .symbol id := by
  constructor
  · intro bare
    cases v with
    | symbol id => exact ⟨id, rfl⟩
    | set frozen items => cases frozen <;> simp [Value.type] at bare
    | mapping kind entries => cases kind <;> simp [Value.type, MappingKind.typeName] at bare
    | rule kind part => cases kind <;> simp [Value.type, RuleKind.typeName] at bare
    | callable callee =>
      cases callee with
      | builtin function => cases function <;> simp [Value.type, Callable.typeName] at bare
      | _ => simp [Value.type, Callable.typeName] at bare
    | _ => simp [Value.type] at bare
  · rintro ⟨id, rfl⟩
    rfl

theorem symbol_accepts : Tag.symbol.accepts v = true ↔ v.kind = .other ∧ v.type = .own "object" := by
  rw [bare_type]
  constructor
  · intro accepted
    cases v with
    | symbol id => exact ⟨rfl, id, rfl⟩
    | _ => cases accepted
  · rintro ⟨-, id, rfl⟩
    rfl

/-- Values that strict equality does not tell apart carry the same tags, apart from the tag of
integers. -/
theorem tags_shared (undenied : strictEqual v w ≠ .ok false) (other : tag ≠ .bigint) :
    tag.accepts v = tag.accepts w := by
  obtain ⟨kinds, compared⟩ := Comparison.strict_equal_asks undenied
  cases tag with
  | bigint => exact absurd rfl other
  | symbol =>
    rw [Bool.eq_iff_iff, symbol_accepts, symbol_accepts, ← kinds]
    refine and_congr_right fun bare => ?_
    rw [bare] at compared
    obtain undefined | null | ⟨-, number | types⟩ := compared
    · cases undefined
    · cases null
    · cases number
    · rw [types]
  | unknown | undetermined => rfl
  | _ => simp only [Tag.accepts, kinds]

/-- Only the name of the tag of integers names it. -/
theorem integer_tag (other : name ≠ "bigint") : Tag.ofName name ≠ .bigint := by
  rw [Tag.ofName, Tag.known, List.lookup_cons, beq_false_of_ne other]
  simp only [List.lookup_cons, List.lookup_nil]
  repeat' split
  all_goals simp

/-- A value that is not told apart from all of some literals is not told apart from one of them. -/
theorem among_undenied (undenied : v.isAmong literals ≠ .ok false) :
    ∃ literal ∈ literals, strictEqual v literal ≠ .ok false := by
  induction literals with
  | nil => exact absurd rfl undenied
  | cons literal rest ih =>
    rw [isAmong] at undenied
    split at undenied
    · obtain ⟨found, listed, equal⟩ := ih undenied
      exact ⟨found, List.mem_cons_of_mem _ listed, equal⟩
    next different => exact ⟨literal, List.mem_cons_self, different⟩

/-- What is not told apart from literals that carry a tag carries it too. -/
theorem undenied_tagged (other : tag ≠ .bigint) (tagged : ∀ literal ∈ literals, tag.accepts literal = true)
    (undenied : v.isAmong literals ≠ .ok false) : tag.accepts v = true := by
  obtain ⟨literal, listed, undenied⟩ := among_undenied undenied
  rw [tags_shared undenied other]
  exact tagged literal listed

/-- An enumeration decides by itself, whether a tag of all its literals stands before it, after
it, or not at all. -/
theorem tag_beside_literals (judge : Judge σ) (path : String) (other : tag ≠ .bigint)
    (tagged : ∀ literal ∈ literals, tag.accepts literal = true) :
    judge.checkMembers path [.enumeration literals] v = .ofExcept (v.isAmong literals) ∧
    judge.checkMembers path [.primitive tag, .enumeration literals] v = .ofExcept (v.isAmong literals) ∧
    judge.checkMembers path [.enumeration literals, .primitive tag] v = .ofExcept (v.isAmong literals) := by
  have tag_checked : judge.checkSimple path (.primitive tag) v = pure (tag.accepts v) := rfl
  have literals_checked : judge.checkSimple path (.enumeration literals) v = .ofExcept (v.isAmong literals) := rfl
  have simple : (Rule.primitive tag).isSimple = true ∧ (Rule.enumeration literals).isSimple = true := ⟨rfl, rfl⟩
  have carried := undenied_tagged (v := v) other tagged
  simp only [Judge.checkMembers, simple, tag_checked, literals_checked, if_true, pure_bind]
  -- Only a value that differs from all literals may lack the tag, and then either of the two fails.
  generalize v.isAmong literals = among at carried ⊢
  rcases among with fault | _ | _
  · rw [carried (by simp)]
    exact ⟨rfl, rfl, rfl⟩
  · cases tag.accepts v <;> exact ⟨rfl, rfl, rfl⟩
  · rw [carried (by simp)]
    exact ⟨rfl, rfl, rfl⟩

/-- Tags and literals are consistent. Take the name of any tag but that of integers, known or
not. Strictly equal values both carry the tag or both do not. So if all literals of
an enumeration carry it, then a present value is judged alike by the enumeration alone, by the
tag and then the enumeration, and by these two in the other order: from every state each of
the three composites passes if the value is among the literals, fails if it is not, and ends
with the fault of the comparison if one is refused; nothing else happens. Where neither the
value nor a literal holds a missing cell or a signalling decimal, none is refused, and the
value is among the literals if it is strictly equal to one. -/
theorem tags_agree_with_literals (name : String) (other : name ≠ "bigint") :
    (∀ left right : Value, strictEqual left right = .ok true →
      (Tag.ofName name).accepts left = (Tag.ofName name).accepts right) ∧
    (∀ (literals : List Value) (v : Value), (∀ literal ∈ literals, (Tag.ofName name).accepts literal = true) →
      ∀ (σ : Type) (judge : Judge σ) (path : String),
        ∀ members ∈ [[Rule.enumeration literals], [.primitive (.ofName name), .enumeration literals],
            [.enumeration literals, .primitive (.ofName name)]],
          judge.judgeField path (some v) (.composite members) = Verdict.leaf <$> .ofExcept (v.isAmong literals)) ∧
    (∀ (literals : List Value) (v : Value), v.Comparable → (∀ literal ∈ literals, literal.Comparable) →
      ∃ listed, v.isAmong literals = .ok listed ∧
        (listed = true ↔ ∃ literal ∈ literals, strictEqual v literal = .ok true)) := by
  have not_integers := integer_tag other
  refine ⟨fun left right equal => tags_shared (by simp [equal]) not_integers, ?_, ?_⟩
  · intro literals v tagged σ judge path members either
    obtain ⟨alone, before, after⟩ := tag_beside_literals (v := v) judge path not_integers tagged
    rw [CompositeMembers.composite_judged]
    simp only [List.mem_cons, List.not_mem_nil, or_false] at either
    rcases either with rfl | rfl | rfl
    · rw [alone]
    · rw [before]
    · rw [after]
  · intro literals v comparable all_comparable
    refine Comparison.among_literals fun earlier literal later split _ => ?_
    exact Comparison.strict_equal_determined comparable (all_comparable literal (by simp [split]))

/-- The literals of a composite are an integer, a float and a member of a class. A fraction is found
among them, since it equals the float, and so it is a number as well. The tag of
integers would tell the two apart. -/
theorem walkthrough_tagged_literals :
    let literals := [.int 1, .float (.ofRatio false 5 2), .member "Level" .integer "HIGH" (.int 10)]
    let half := Value.fraction (5 / 2)
    let judge : Judge Unit := ⟨CommandLine.noCalls, validatorLogger⟩
    strictEqual half (.float (.ofRatio false 5 2)) = .ok true ∧
    Tag.number.accepts half = Tag.number.accepts (.float (.ofRatio false 5 2)) ∧
    judge.judgeField "size" (some half) (.composite [.primitive .number, .enumeration literals]) = pure (.leaf true) ∧
    strictEqual (.int 1 : Value) (.fraction 1) = .ok true ∧
    Tag.bigint.accepts (.int 1) ≠ Tag.bigint.accepts (.fraction 1) := by
  intro literals half judge
  have number : Tag.ofName "number" = .number := rfl
  obtain ⟨shared, alike, told⟩ := tags_agree_with_literals "number" (by decide)
  rw [number] at shared alike
  have equal : strictEqual half (.float (.ofRatio false 5 2)) = .ok true := by decide +kernel
  have tagged : ∀ literal ∈ literals, Tag.number.accepts literal = true := by decide
  obtain ⟨listed, among, found⟩ := told literals half (by simp [half, Value.Comparable, refusal?])
    (by simp [literals, Value.Comparable, refusal?])
  have passes : listed = true := found.mpr ⟨_, by simp [literals], equal⟩
  subst passes
  have judged := alike literals half tagged Unit judge "size" [.primitive .number, .enumeration literals] (by simp)
  rw [among] at judged
  exact ⟨equal, shared _ _ equal, judged, by decide +kernel, by decide⟩

end RecordSchema.TaggedLiterals
