import RecordSchema.Proofs.EntryLists
import RecordSchema.Proofs.MatchingParts

/-! Comparisons with an outcome. A comparison is refused only by a missing cell or by a
signalling decimal, and it enters nothing but containers and rule objects. So values that
hold neither there are always told apart or found equal, and looking for a value among such
literals always comes to an end. -/
namespace RecordSchema
namespace Value

variable {Key : Type}

/-- The fault with which a value refuses comparisons, if it refuses any. -/
def refusal? : Value Key → Option Fault
  | .missing => some .undetermined
  | .decimal d => if d.isSignalling then some .signalled else none
  | _ => none

/-- A value refuses comparisons with a fault, or holds one that does, where a comparison may meet it. What
a member of a class is besides a member is left out, as members are compared by identity or by value. -/
inductive HoldsRefusal (fault : Fault) : Value Key → Prop where
  | here {v : Value Key} (refuses : v.refusal? = some fault) : HoldsRefusal fault v
  | inside {v part : Value Key} (among : part ∈ v.parts) (holds : HoldsRefusal fault part) : HoldsRefusal fault v

/-- Nothing that a comparison may meet in a value refuses to be compared: there is no missing cell and no
signalling decimal. -/
def Comparable (v : Value Key) : Prop := v.Throughout (·.refusal? = none)

end Value

namespace Comparison

open Value MatchingParts

variable {Key : Type} {v w part : Value Key} {xs ys literals : List (Value Key)}
  {entries others : List (Key × Value Key)} {key : Key} {turned : Bool} {fault : Fault}

/-! ## What refuses a comparison -/

theorem comparable_refuses_nothing (comparable : v.Comparable) : ¬v.HoldsRefusal fault := by
  intro refused
  induction refused with
  | here refuses => simp [throughout_here comparable] at refuses
  | inside among _ ih => exact ih (throughout_part comparable among)

theorem comparable_entries {kind : MappingKind} (comparable : (Value.mapping kind entries).Comparable) :
    ∀ entry ∈ entries, entry.2.Comparable :=
  (throughout_mapping.mp comparable).2

theorem number_refusal {n : Numeral} (refuses : v.refuses n = true) : v.refusal? = some .signalled := by
  rw [Value.refuses, Bool.and_eq_true] at refuses
  cases v with
  | decimal d => exact if_pos refuses.1
  | _ => cases refuses.1

theorem atoms_refused (refused : atomsEqual v w = .error fault) :
    v.refusal? = some fault ∨ w.refusal? = some fault := by
  unfold atomsEqual at refused
  split at refused
  · split at refused <;> cases refused
    exact .inl rfl
  · split at refused <;> cases refused
    exact .inr rfl
  · cases refused
  · cases refused
  · cases refused
  · cases refused
  · split at refused
    next m n _ _ left right =>
      split at refused
      next either =>
        cases refused
        rw [Bool.or_eq_true] at either
        exact either.imp number_refusal number_refusal
      · cases refused
    · cases refused
    · cases refused

theorem first_difference_refused {outcomes : List (Except Fault Bool)}
    (refused : firstDifference outcomes = .error fault) : .error fault ∈ outcomes := by
  induction outcomes with
  | nil => cases refused
  | cons outcome rest ih =>
    rcases outcome with own | _ | _
    · cases refused
      exact List.mem_cons_self
    · cases refused
    · exact List.mem_cons_of_mem _ (ih refused)

variable [DecidableEq Key]

theorem comparable_entry (comparable : ∀ entry ∈ entries, entry.2.Comparable)
    (found : entries.lookup key = some v) : v.Comparable :=
  comparable _ (Entries.mem_of_lookup found)

theorem in_order_refused (refused : inOrder (itemTests turned xs) ys = .error fault) :
    ∃ x ∈ xs, ∃ y ∈ ys, compareParts turned x y = .error fault := by
  rw [in_order_pairs] at refused
  obtain ⟨⟨x, y⟩, member, refused⟩ := List.mem_map.mp (first_difference_refused refused)
  obtain ⟨among, among'⟩ := List.of_mem_zip member
  exact ⟨x, among, y, among', refused⟩

theorem places_refused (refused : placesEqual (itemTests turned xs) ys = .error fault) :
    ∃ x ∈ xs, ∃ y ∈ ys, compareParts turned x y = .error fault := by
  rw [placesEqual] at refused
  split at refused
  · cases refused
  · exact in_order_refused refused

theorem entries_pass_refused (refused : entriesPass (entryTests turned entries) others = .error fault) :
    ∃ x ∈ entries.map (·.2), ∃ y ∈ others.map (·.2), compareParts turned x y = .error fault := by
  have member := first_difference_refused refused
  rw [entry_tests, List.map_map] at member
  obtain ⟨⟨key, x⟩, among, refused⟩ := List.mem_map.mp member
  cases found : others.lookup key with
  | none => simp [found] at refused
  | some y =>
    refine ⟨x, List.mem_map.mpr ⟨_, among, rfl⟩, y, List.mem_map.mpr ⟨_, Entries.mem_of_lookup found, rfl⟩, ?_⟩
    simpa [found] using refused

theorem entries_found_refused (refused : entriesFound (entryTests turned entries) others = .error fault) :
    ∃ x ∈ entries.map (·.2), ∃ y ∈ others.map (·.2), compareParts turned x y = .error fault := by
  obtain ⟨⟨key, y⟩, among, refused⟩ := List.mem_map.mp (first_difference_refused refused)
  simp only [lookup_tests] at refused
  cases found : entries.lookup key with
  | none => simp [found] at refused
  | some x =>
    refine ⟨x, List.mem_map.mpr ⟨_, Entries.mem_of_lookup found, rfl⟩, y, List.mem_map.mpr ⟨_, among, rfl⟩, ?_⟩
    simpa [found] using refused

/-- Where a comparison is refused, the values themselves refuse it, or two of their parts do. -/
theorem equal_refused_within (refused : equalAsked turned v w = .error fault) :
    atomsEqual v w = .error fault ∨
      ∃ turned', ∃ x ∈ v.parts, ∃ y ∈ w.parts, compareParts turned' x y = .error fault := by
  cases v with
  | list xs =>
    unfold equalAsked at refused
    split at refused
    · split at refused
      · exact .inr ⟨_, in_order_refused refused⟩
      · cases refused
    · exact .inl refused
  | tuple xs | named type xs =>
    unfold equalAsked at refused
    split at refused
    · exact .inr ⟨_, places_refused refused⟩
    · exact .inr ⟨_, places_refused refused⟩
    · exact .inl refused
  | set frozen xs =>
    unfold equalAsked at refused
    split at refused
    · cases refused
    · exact .inl refused
  | mapping kind entries =>
    unfold equalAsked at refused
    split at refused
    · split at refused
      · split at refused
        · cases refused
        · split at refused
          · exact .inr ⟨_, entries_found_refused refused⟩
          · exact .inr ⟨_, entries_pass_refused refused⟩
      · cases refused
    · exact .inl refused
  | rule kind part =>
    unfold equalAsked at refused
    split at refused
    · split at refused
      · exact .inr ⟨turned, _, List.mem_singleton_self _, _, List.mem_singleton_self _, refused⟩
      · cases refused
    · exact .inl refused
  | _ => exact .inl ((equal_plain (.inl rfl)).symm.trans refused)

/-- A comparison is refused by what one of its sides holds. -/
theorem equal_refused (v : Value Key) : ∀ {turned : Bool} {w : Value Key}, equalAsked turned v w = .error fault →
    v.HoldsRefusal fault ∨ w.HoldsRefusal fault := by
  induction v using part_induction with
  | step v ih =>
    intro turned w refused
    rcases equal_refused_within refused with atoms | ⟨turned', x, among, y, among', refused⟩
    · exact (atoms_refused atoms).imp .here .here
    · unfold compareParts asParts at refused
      split at refused
      · cases refused
      · exact (ih x among refused).imp (.inside among) (.inside among')

/-! ## Outcomes -/

/-- Values that can be compared are equal or not. -/
theorem equal_determined (left : v.Comparable) (right : w.Comparable) : ∃ b, equalAsked turned v w = .ok b := by
  cases outcome : equalAsked turned v w with
  | ok b => exact ⟨b, rfl⟩
  | error fault =>
    rcases equal_refused v outcome with refused | refused
    · exact absurd refused (comparable_refuses_nothing left)
    · exact absurd refused (comparable_refuses_nothing right)

/-- Strict equality is refused by what one of its sides holds, as it looks no further than loose
equality does. -/
theorem strict_equal_refused (refused : strictEqual v w = .error fault) :
    v.HoldsRefusal fault ∨ w.HoldsRefusal fault := by
  unfold strictEqual at refused
  split at refused
  · cases refused
  · split at refused
    · exact equal_refused v refused
    · cases refused
    · cases refused
    · split at refused
      · cases refused
      · exact equal_refused v refused

theorem strict_equal_determined (left : v.Comparable) (right : w.Comparable) : ∃ b, strictEqual v w = .ok b := by
  cases outcome : strictEqual v w with
  | ok b => exact ⟨b, rfl⟩
  | error fault =>
    rcases strict_equal_refused outcome with refused | refused
    · exact absurd refused (comparable_refuses_nothing left)
    · exact absurd refused (comparable_refuses_nothing right)

/-- What strict equality asks for: one kind, and then loose equality and, where the kind is too
coarse, one type as well. Two kinds have one value each, which need not be compared. -/
theorem strict_equal_asks (undenied : strictEqual v w ≠ .ok false) : v.kind = w.kind ∧
    (v.kind = .undefined ∨ v.kind = .null ∨
      strictEqual v w = Value.equal v w ∧ (v.kind = .number ∨ v.type = w.type)) := by
  unfold strictEqual at undenied ⊢
  split at undenied
  · exact absurd rfl undenied
  next same =>
    refine ⟨not_not.mp same, ?_⟩
    rw [if_neg same]
    split at undenied
    next number => exact .inr (.inr ⟨rfl, .inl number⟩)
    next undefined => exact .inl undefined
    next null => exact .inr (.inl null)
    · split at undenied
      · exact absurd rfl undenied
      next types => exact .inr (.inr ⟨if_neg types, .inr (not_not.mp types)⟩)

theorem strict_equal_cases (equal : strictEqual v w = .ok true) : v.kind = w.kind ∧
    (v.kind = .undefined ∨ v.kind = .null ∨
      Value.equal v w = .ok true ∧ (v.kind = .number ∨ v.type = w.type)) := by
  obtain ⟨kinds, undefined | null | ⟨loose, types⟩⟩ :=
    strict_equal_asks (v := v) (w := w) (by simp [equal])
  · exact ⟨kinds, .inl undefined⟩
  · exact ⟨kinds, .inr (.inl null)⟩
  · exact ⟨kinds, .inr (.inr ⟨loose.symm.trans equal, types⟩)⟩

/-- A value is found among literals if it is strictly equal to one of them, as
long as every literal up to the first such one can be told from it. -/
theorem among_literals (determined : ∀ earlier literal later, literals = earlier ++ literal :: later →
      (∀ other ∈ earlier, strictEqual v other = .ok false) → ∃ b, strictEqual v literal = .ok b) :
    ∃ b, isAmong v literals = .ok b ∧
      (b = true ↔ ∃ literal ∈ literals, strictEqual v literal = .ok true) := by
  induction literals with
  | nil => exact ⟨false, rfl, by simp⟩
  | cons literal rest ih =>
    obtain ⟨b, compared⟩ := determined [] literal rest rfl (by simp)
    rw [isAmong, compared]
    cases b with
    | true => exact ⟨true, rfl, by simp [compared]⟩
    | false =>
      have others : ∀ earlier later_literal later, rest = earlier ++ later_literal :: later →
          (∀ other ∈ earlier, strictEqual v other = .ok false) →
            ∃ b, strictEqual v later_literal = .ok b := by
        rintro earlier next later rfl differ
        exact determined (literal :: earlier) next later rfl (List.forall_mem_cons.mpr ⟨compared, differ⟩)
      obtain ⟨b, among, found⟩ := ih others
      exact ⟨b, among, by simp [found, compared]⟩

end Comparison
end RecordSchema
