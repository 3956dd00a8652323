import Mathlib.Data.List.Forall2
import RecordSchema.Value.Equality

/-! Parts that match. Inside a container two values count as equal if they are one object
known by its identity, or if loose equality finds them equal. Here this relation is told
shape by shape, by what it asks of the parts below: places match in order, items of a set
match in any order, entries match under their keys. Values that no comparison enters match
for one of five reasons. All that is proved of equality rests on these statements and does
not open the comparison again.

Which of two values is asked about the other is part of the relation, since the types of
containers settle it anew for what is in them. -/
namespace RecordSchema
namespace Value

variable {Key : Type}

/-- Whether a comparison enters a value. -/
@[reducible] def isEntered : Value Key → Bool
  | .list _ | .tuple _ | .named _ _ | .set _ _ | .mapping _ _ | .rule _ _ => true
  | _ => false

/-- The values that a value is made of, as far as comparisons enter it. -/
def parts : Value Key → List (Value Key)
  | .list items | .tuple items | .named _ items | .set _ items => items
  | .mapping _ entries => entries.map (·.2)
  | .rule _ part => [part]
  | _ => []

/-- What holds of a value and of all that it is made of, at every depth. -/
inductive Throughout (p : Value Key → Prop) : Value Key → Prop where
  | intro {v : Value Key} (here : p v) (inside : ∀ part ∈ v.parts, part.Throughout p) : v.Throughout p

/-- What comes of comparing two values where they are parts of containers. -/
def compareParts [DecidableEq Key] (turned : Bool) (left right : Value Key) : Except Fault Bool :=
  asParts left right (equalAsked turned left right)

/-- Whether two values count as equal where they are parts of containers. -/
def Meets [DecidableEq Key] (turned : Bool) (left right : Value Key) : Prop :=
  compareParts turned left right = .ok true

/-- Whether two values count as equal where they are parts of containers and the left one is asked. -/
abbrev Matches [DecidableEq Key] (left right : Value Key) : Prop := Meets false left right

instance [DecidableEq Key] (turned : Bool) (left right : Value Key) : Decidable (Meets turned left right) :=
  inferInstanceAs (Decidable (compareParts turned left right = .ok true))

/-- The items of a tuple of any type. -/
def places? : Value Key → Option (List (Value Key))
  | .tuple items | .named _ items => some items
  | _ => none

/-- Whether the places of the right one of two tuples are asked, given which tuple is asked first. A tuple of
a derived type is always asked about a plain one. -/
def placesTurned (turned : Bool) : Value Key → Value Key → Bool
  | .tuple _, .named _ _ => true
  | .named _ _, .tuple _ => false
  | _, _ => turned

/-- Why a value that no comparison enters matches another one. -/
inductive AtomsMatch : Value Key → Value Key → Prop where
  | object {v w : Value Key} (same : v.sameObject w = true) : AtomsMatch v w
  | null : AtomsMatch .null .null
  | undefined : AtomsMatch .undefined .undefined
  | octets (bytes : List UInt8) : AtomsMatch (.octets bytes) (.octets bytes)
  | numbers {v w : Value Key} {m n : Numeral} (left : v.numeral? = some m) (right : w.numeral? = some n)
      (equal : m.equal n = true) : AtomsMatch v w
  | texts {v w : Value Key} {s : String} (left : v.text? = some s) (right : w.text? = some s) : AtomsMatch v w

end Value

namespace MatchingParts

open Value

variable {Key : Type} {p : Value Key → Prop} {v w part : Value Key} {xs ys : List (Value Key)} {key : Key}
  {kind kind' : MappingKind} {entries others : List (Key × Value Key)} {turned : Bool} {fault : Fault}

/-! ## Throughout a value -/

theorem throughout_here (holds : v.Throughout p) : p v := by
  cases holds with
  | intro here inside => exact here

theorem throughout_part (holds : v.Throughout p) (among : part ∈ v.parts) : part.Throughout p := by
  cases holds with
  | intro here inside => exact inside part among

theorem throughout_iff : v.Throughout p ↔ p v ∧ ∀ part ∈ v.parts, part.Throughout p :=
  ⟨fun holds => ⟨throughout_here holds, fun _ among => throughout_part holds among⟩,
    fun ⟨here, inside⟩ => .intro here inside⟩

/-- What is not entered has no parts. -/
@[simp] theorem throughout_plain (plain : v.isEntered = false) : v.Throughout p ↔ p v := by
  have no_parts : v.parts = [] := by
    cases v with
    | list | tuple | named | set | mapping | rule => cases plain
    | _ => rfl
  simp [throughout_iff (v := v), no_parts]

@[simp] theorem throughout_list : (Value.list xs).Throughout p ↔ p (.list xs) ∧ ∀ x ∈ xs, x.Throughout p :=
  throughout_iff

@[simp] theorem throughout_tuple : (Value.tuple xs).Throughout p ↔ p (.tuple xs) ∧ ∀ x ∈ xs, x.Throughout p :=
  throughout_iff

@[simp] theorem throughout_named {type : TupleType} :
    (Value.named type xs).Throughout p ↔ p (.named type xs) ∧ ∀ x ∈ xs, x.Throughout p :=
  throughout_iff

@[simp] theorem throughout_set {frozen : Bool} :
    (Value.set frozen xs).Throughout p ↔ p (.set frozen xs) ∧ ∀ x ∈ xs, x.Throughout p :=
  throughout_iff

@[simp] theorem throughout_mapping : (Value.mapping kind entries).Throughout p ↔
    p (.mapping kind entries) ∧ ∀ entry ∈ entries, entry.2.Throughout p := by
  rw [throughout_iff, parts, List.forall_mem_map]

theorem entry_part (member : (key, v) ∈ entries) : v ∈ (Value.mapping kind entries).parts :=
  List.mem_map.mpr ⟨(key, v), member, rfl⟩

/-- The items of a tuple of any type are what it is made of. -/
theorem places_parts (places : v.places? = some xs) : v.parts = xs := by
  cases v with
  | tuple | named =>
    cases places
    rfl
  | _ => cases places

theorem part_smaller (among : part ∈ v.parts) : sizeOf part < sizeOf v := by
  cases v with
  | list items | tuple items | named _ items | set _ items =>
    have smaller := List.sizeOf_lt_of_mem (show part ∈ items from among)
    simp only [list.sizeOf_spec, tuple.sizeOf_spec, named.sizeOf_spec, set.sizeOf_spec]
    omega
  | mapping kind entries =>
    obtain ⟨⟨key, v⟩, member, rfl⟩ := List.mem_map.mp among
    have smaller := List.sizeOf_lt_of_mem member
    simp only [mapping.sizeOf_spec, Prod.mk.sizeOf_spec] at smaller ⊢
    omega
  | rule kind v =>
    rw [List.mem_singleton.mp among, rule.sizeOf_spec]
    omega
  | _ => cases among

/-- What holds of a value if it holds of all that the value is made of holds of all values. -/
theorem part_induction {motive : Value Key → Prop} (step : ∀ v : Value Key, (∀ part ∈ v.parts, motive part) → motive v)
    (v : Value Key) : motive v :=
  step v fun part _ => part_induction step part
termination_by sizeOf v
decreasing_by exact part_smaller ‹_›

/-! ## Values that are not entered -/

/-- What is entered is known by its parts, and not as an object, a number or a text. -/
theorem entered_no_atom (entered : v.isEntered = true) :
    (∀ w, v.sameObject w = false ∧ w.sameObject v = false) ∧ v.numeral? = none ∧ v.text? = none := by
  cases v with
  | list | tuple | named | set | mapping | rule =>
    exact ⟨fun w => ⟨by cases w <;> rfl, by cases w <;> rfl⟩, rfl, rfl⟩
  | _ => cases entered

theorem atoms_match_plain (matched : v.AtomsMatch w) : v.isEntered = false ∧ w.isEntered = false := by
  constructor
  · by_contra entered
    obtain ⟨object, number, text⟩ := entered_no_atom (by simpa using entered)
    cases matched with
    | object same => simp [(object w).1] at same
    | numbers left => simp [number] at left
    | texts left => simp [text] at left
    | null | undefined | octets => exact entered rfl
  · by_contra entered
    obtain ⟨object, number, text⟩ := entered_no_atom (by simpa using entered)
    cases matched with
    | object same => simp [(object v).2] at same
    | numbers _ right => simp [number] at right
    | texts _ right => simp [text] at right
    | null | undefined | octets => exact entered rfl

/-- Loose equality of values that are not entered holds for one of the reasons to match. -/
theorem atoms_equal_match (equal : atomsEqual v w = .ok true) : v.AtomsMatch w := by
  unfold atomsEqual at equal
  split at equal
  · split at equal <;> cases equal
  · split at equal <;> cases equal
  · exact .null
  · exact .undefined
  · cases equal
  next a b =>
    have same : a = b := by simpa using equal
    exact same ▸ .octets a
  · split at equal
    next m n _ _ left right =>
      split at equal
      · cases equal
      · exact .numbers left right (by simpa using equal)
    next s t left right _ =>
      have same : s = t := by simpa using equal
      exact .texts left (same ▸ right)
    · exact .object (by simpa using equal)

/-- No value is a number and a text at once. -/
theorem number_no_text {m : Numeral} (number : v.numeral? = some m) : v.text? = none := by
  cases v with
  | text | derivedText => cases number
  | member owner base name value =>
    cases base with
    | text => cases number
    | _ => rfl
  | _ => rfl

theorem numbers_equal {m n : Numeral} (left : v.numeral? = some m) (right : w.numeral? = some n) :
    atomsEqual v w = if v.refuses n || w.refuses m then .error .signalled else .ok (m.equal n) := by
  unfold atomsEqual
  split
  · cases left
  · cases right
  · cases left
  · cases left
  · cases left
  · cases left
  · simp only [left, right]

/-- What is equal to a number is no signalling decimal, and refuses nothing. -/
theorem number_not_refused {m n : Numeral} (left : v.numeral? = some m)
    (equal : m.equal n = true ∨ n.equal m = true) : v.refuses n = false := by
  rw [refuses, Bool.and_eq_false_iff]
  left
  cases v with
  | decimal d =>
    cases left
    cases d with
    | nan =>
      rcases equal with equal | equal <;>
        simp [Numeral.equal, Number.Decimal.value, Number.Extended.equal] at equal
    | _ => rfl
  | _ => rfl

theorem texts_equal {s t : String} (left : v.text? = some s) (right : w.text? = some t) :
    atomsEqual v w = .ok (s == t) := by
  have no_number : v.numeral? = none := by
    by_contra number
    obtain ⟨m, number⟩ := Option.ne_none_iff_exists'.mp number
    simp [number_no_text number] at left
  unfold atomsEqual
  split
  · cases left
  · cases right
  · cases left
  · cases left
  · cases left
  · cases left
  · simp only [left, right, no_number]

/-- What is entered is not equal to anything that is not entered in the same way. -/
theorem entered_unequal (entered : v.isEntered = true) : atomsEqual v w ≠ .ok true := by
  intro equal
  have plain := (atoms_match_plain (atoms_equal_match equal)).1
  simp [plain] at entered

variable [DecidableEq Key]

/-- Two values are compared as they are if either of them is not entered. -/
theorem equal_plain (plain : v.isEntered = false ∨ w.isEntered = false) :
    equalAsked turned v w = atomsEqual v w := by
  rcases plain with plain | plain
  · cases v with
    | list | tuple | named | set | mapping | rule => cases plain
    | _ => rfl
  · cases w with
    | list | tuple | named | set | mapping | rule => cases plain
    | _ => cases v <;> rfl

/-- What is no object known by its identity is compared by loose equality. -/
theorem compare_equal (other : v.sameObject w = false) : compareParts turned v w = equalAsked turned v w := by
  simp [compareParts, asParts, other]

/-- A value that is not entered matches for one of five reasons and no other. -/
theorem atoms_meet (plain : v.isEntered = false) : v.Meets turned w ↔ v.AtomsMatch w := by
  constructor
  · intro matched
    by_cases same : v.sameObject w = true
    · exact .object same
    · rw [Meets, compare_equal (by simpa using same), equal_plain (.inl plain)] at matched
      exact atoms_equal_match matched
  · intro matched
    have outcome (equal : atomsEqual v w = .ok true) : v.Meets turned w := by
      rw [Meets, compareParts, asParts, equal_plain (.inl plain), equal]
      split <;> rfl
    cases matched with
    | object same => simp [Meets, compareParts, asParts, same]
    | null | undefined => exact outcome rfl
    | octets bytes => exact outcome (by simp [atomsEqual])
    | numbers left right equal =>
      refine outcome ?_
      rw [numbers_equal left right, number_not_refused left (.inl equal), number_not_refused right (.inr equal), equal]
      rfl
    | texts left right => exact outcome (by simp [texts_equal left right])

/-- What is entered matches what it is loosely equal to. -/
theorem entered_meets (entered : v.isEntered = true) : v.Meets turned w ↔ equalAsked turned v w = .ok true := by
  rw [Meets, compare_equal ((entered_no_atom entered).1 w).1]

/-! ## Items and entries -/

theorem item_tests (turned : Bool) (xs : List (Value Key)) : itemTests turned xs = xs.map (compareParts turned) := by
  induction xs with
  | nil => rfl
  | cons x xs ih =>
    rw [itemTests, ih]
    rfl

theorem entry_tests (turned : Bool) (entries : List (Key × Value Key)) :
    entryTests turned entries = entries.map fun entry => (entry.1, compareParts turned entry.2) := by
  induction entries with
  | nil => rfl
  | cons entry rest ih =>
    rw [entryTests, ih]
    rfl

theorem first_difference_none {outcomes : List (Except Fault Bool)} :
    firstDifference outcomes = .ok true ↔ ∀ outcome ∈ outcomes, outcome = .ok true := by
  induction outcomes with
  | nil => simp [firstDifference]
  | cons outcome rest ih =>
    rw [List.forall_mem_cons]
    rcases outcome with fault | _ | _
    · simp [firstDifference]
    · simp [firstDifference]
    · simp [firstDifference, ih]

/-- What holds place by place may be weakened by what is known of the items. -/
theorem places_imp {α β : Type} {r q : α → β → Prop} {xs : List α} {ys : List β}
    (each : ∀ x ∈ xs, ∀ y ∈ ys, r x y → q x y) (places : List.Forall₂ r xs ys) : List.Forall₂ q xs ys := by
  induction places with
  | nil => exact .nil
  | @cons x y xs ys first others ih =>
    refine .cons (each x List.mem_cons_self y List.mem_cons_self first) (ih fun x among y place => ?_)
    exact each x (List.mem_cons_of_mem _ among) y (List.mem_cons_of_mem _ place)

/-- What holds place by place depends on nothing but the items. -/
theorem places_congr {α β : Type} {r q : α → β → Prop} {xs : List α} {ys : List β}
    (each : ∀ x ∈ xs, ∀ y ∈ ys, (r x y ↔ q x y)) : List.Forall₂ r xs ys ↔ List.Forall₂ q xs ys :=
  ⟨places_imp fun x among y place => (each x among y place).mp,
    places_imp fun x among y place => (each x among y place).mpr⟩

/-- Items are compared pair by pair, as far as there are items on both sides. -/
theorem in_order_pairs : inOrder (itemTests turned xs) ys =
    firstDifference ((xs.zip ys).map fun pair => compareParts turned pair.1 pair.2) := by
  rw [inOrder, item_tests, List.zipWith_map_left, List.map_zip_eq_zipWith]
  rfl

theorem items_meet : List.Forall₂ (Meets turned) xs ys ↔
    xs.length = ys.length ∧ inOrder (itemTests turned xs) ys = .ok true := by
  rw [List.forall₂_iff_zip, in_order_pairs, first_difference_none, List.forall_mem_map, Prod.forall]
  rfl

theorem places_equal : placesEqual (itemTests turned xs) ys = .ok true ↔ List.Forall₂ (Meets turned) xs ys := by
  have size : (itemTests turned xs).length = xs.length := by rw [item_tests, List.length_map]
  rw [items_meet, placesEqual]
  split
  next passed => simp [passed, size]
  next other => exact ⟨fun passed => absurd passed other, fun both => absurd both.2 other⟩

theorem all_find : allFind (itemTests turned xs) ys = true ↔ ∀ x ∈ xs, ∃ y ∈ ys, x.Meets turned y := by
  rw [allFind, item_tests, List.all_map, List.all_eq_true]
  refine forall₂_congr fun x _ => ?_
  rw [Function.comp_apply, List.any_eq_true]
  refine exists_congr fun y => and_congr_right fun _ => ?_
  rw [Meets]
  rcases compareParts turned x y with fault | _ | _ <;> simp

theorem entries_pass : entriesPass (entryTests turned entries) others = .ok true ↔
    ∀ entry ∈ entries, ∃ w, others.lookup entry.1 = some w ∧ entry.2.Meets turned w := by
  rw [entriesPass, first_difference_none, entry_tests, List.map_map, List.forall_mem_map]
  refine forall₂_congr fun entry _ => ?_
  simp only [Function.comp_apply]
  cases others.lookup entry.1 <;> simp [Meets]

theorem lookup_tests (key : Key) : (entryTests turned entries).lookup key =
    (entries.lookup key).map (compareParts turned) := by
  rw [entry_tests]
  induction entries with
  | nil => rfl
  | cons entry rest ih =>
    rw [List.map_cons, List.lookup_cons, List.lookup_cons, ih]
    split <;> rfl

theorem entries_found : entriesFound (entryTests turned entries) others = .ok true ↔
    ∀ other ∈ others, ∃ v, entries.lookup other.1 = some v ∧ v.Meets turned other.2 := by
  rw [entriesFound, first_difference_none, List.forall_mem_map]
  refine forall₂_congr fun other _ => ?_
  simp only [lookup_tests]
  cases entries.lookup other.1 <;> simp [Meets]

/-! ## Values that are entered -/

theorem list_meets : (Value.list xs).Meets turned w ↔
    ∃ ys, w = .list ys ∧ List.Forall₂ (Meets turned) xs ys := by
  rw [entered_meets rfl]
  unfold equalAsked
  split
  next ys =>
    split
    next same => simp [items_meet, same]
    next longer => simp [items_meet, longer]
  next other =>
    refine ⟨fun equal => absurd equal (entered_unequal rfl), ?_⟩
    rintro ⟨ys, rfl, -⟩
    exact absurd rfl (other ys)

/-- Tuples of any type match place by place. -/
theorem places_meet (places : v.places? = some xs) : v.Meets turned w ↔
    ∃ ys, w.places? = some ys ∧ List.Forall₂ (Meets (placesTurned turned v w)) xs ys := by
  have unlike (no_places : w.places? = none) (atoms : equalAsked turned v w = atomsEqual v w)
      (entered : v.isEntered = true) : equalAsked turned v w = .ok true ↔
        ∃ ys, w.places? = some ys ∧ List.Forall₂ (Meets (placesTurned turned v w)) xs ys := by
    rw [atoms, no_places]
    exact ⟨fun equal => absurd equal (entered_unequal entered), nofun⟩
  cases v with
  | tuple items =>
    cases places
    rw [entered_meets rfl]
    cases w with
    | tuple ys | named type ys => simp [places?, placesTurned, equalAsked, places_equal]
    | _ => exact unlike rfl rfl rfl
  | named type items =>
    cases places
    rw [entered_meets rfl]
    cases w with
    | tuple ys | named type ys => simp [places?, placesTurned, equalAsked, places_equal]
    | _ => exact unlike rfl rfl rfl
  | _ => cases places

/-- Sets match if they have equally many items and those of the first are found in the second. -/
theorem set_meets {frozen : Bool} : (Value.set frozen xs).Meets turned w ↔
    ∃ frozen' ys, w = .set frozen' ys ∧ xs.length = ys.length ∧ ∀ x ∈ xs, ∃ y ∈ ys, x.Meets turned y := by
  rw [entered_meets rfl]
  unfold equalAsked
  split
  next frozen' ys => simp [all_find]
  next other =>
    refine ⟨fun equal => absurd equal (entered_unequal rfl), ?_⟩
    rintro ⟨frozen', ys, rfl, -⟩
    exact absurd rfl (other frozen' ys)

/-- A mapping matches nothing but mappings. -/
theorem mapping_meets_mapping (matched : (Value.mapping kind entries).Meets turned w) :
    ∃ kind' others, w = .mapping kind' others := by
  rw [entered_meets rfl] at matched
  unfold equalAsked at matched
  split at matched
  next kind' others => exact ⟨kind', others, rfl⟩
  next => exact absurd matched (entered_unequal rfl)

/-- Mappings match if they have equally many entries and those of the one that is asked are found in
the other. The order of the keys counts only where both are ordered. -/
theorem mappings_meet : (Value.mapping kind entries).Meets turned (.mapping kind' others) ↔
    entries.length = others.length ∧
      (if kind.asksRight turned kind' then
        ∀ other ∈ others, ∃ v, entries.lookup other.1 = some v ∧ v.Meets true other.2
      else ∀ entry ∈ entries, ∃ w, others.lookup entry.1 = some w ∧ entry.2.Meets false w) ∧
      (kind = .ordered → kind' = .ordered → entries.map (·.1) = others.map (·.1)) := by
  have order : ((kind != .ordered || kind' != .ordered || entries.map (·.1) == others.map (·.1)) = true) ↔
      (kind = .ordered → kind' = .ordered → entries.map (·.1) = others.map (·.1)) := by
    simp only [Bool.or_eq_true, bne_iff_ne, beq_iff_eq]
    tauto
  have found : (if kind.asksRight turned kind' then entriesFound (entryTests true entries) others
      else entriesPass (entryTests false entries) others) = .ok true ↔
      (if kind.asksRight turned kind' then
        ∀ other ∈ others, ∃ v, entries.lookup other.1 = some v ∧ v.Meets true other.2
      else ∀ entry ∈ entries, ∃ w, others.lookup entry.1 = some w ∧ entry.2.Meets false w) := by
    split
    · exact entries_found
    · exact entries_pass
  rw [entered_meets rfl, equalAsked, ← found, ← order]
  split
  next same =>
    split
    next passed => simp [same, passed]
    next other => exact ⟨fun equal => absurd equal other, fun all => absurd all.2.1 other⟩
  next longer => simp [longer]

theorem rule_meets {rule : RuleKind} : (Value.rule rule v).Meets turned w ↔
    ∃ part, w = .rule rule part ∧ v.Meets turned part := by
  rw [entered_meets rfl]
  unfold equalAsked
  split
  next rule' part =>
    split
    next same =>
      subst same
      simp [Meets, compareParts]
    next different =>
      refine ⟨by simp, ?_⟩
      rintro ⟨part, ⟨⟩, -⟩
      exact absurd rfl different
  next other =>
    refine ⟨fun equal => absurd equal (entered_unequal rfl), ?_⟩
    rintro ⟨part, rfl, -⟩
    exact absurd rfl (other rule part)

end MatchingParts
end RecordSchema
