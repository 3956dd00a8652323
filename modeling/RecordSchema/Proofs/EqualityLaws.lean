import RecordSchema.Proofs.Comparison

/-! The laws of equality. Strict equality compares the values themselves and then, below the
top, whatever loose equality finds equal, so its symmetry is that of matching parts. Places
pose no question; mappings and sets do, since of two of them one is searched for what the
other holds. That the search then succeeds in the other direction too is a matter of counting:
there are equally many entries or items, and two of the one never match one of the other.
For entries this is so because keys are distinct; for items, because matching is transitive on
what a set can hold. On mappings it is not: two ordered ones in different orders match the
same plain one, but not each other.

Values that hold a signalling decimal are equal both ways or neither way, but if they are
not, one way may be refused where the other one comes to a difference first. -/
namespace RecordSchema

/-- What each member of a class is besides a member and its value, by the names of the class
and of the member. -/
abbrev Members (Key : Type := String) := String → String → MemberBase × Value Key

namespace Value

variable {Key : Type}

/-- Whether a set can hold a value, as far as its top is concerned. A set holds what cannot
change, and no mapping. -/
def canBeItem : Value Key → Bool
  | .list _ | .set false _ | .mapping _ _ => false
  | _ => true

/-- What all values uphold, told of the top of one: a mapping holds each key once, a set holds no
two items that match, and only what sets can hold, and two members with the same names are
the same. -/
def UpholdsForm [DecidableEq Key] (members : Members Key) : Value Key → Prop
  | .mapping _ entries => (entries.map (·.1)).Nodup
  | .set _ items =>
    items.Pairwise (fun one other => ¬one.Matches other) ∧ ∀ item ∈ items, item.Throughout (·.canBeItem = true)
  | .member owner base name value => members owner name = (base, value)
  | _ => True

/-- A value is well formed if it and all that it is made of uphold their form. -/
def WellFormed [DecidableEq Key] (members : Members Key) (v : Value Key) : Prop := v.Throughout (UpholdsForm members)

/-- What differs from itself: what is no number, in any numeric format, and the mark of a missing
point in time. -/
def differsFromItself : Value Key → Bool
  | .missingTime => true
  | .float x => x.isNaN
  | .decimal d => d.isNaN
  | .complex re im => re.isNaN || im.isNaN
  | _ => false

end Value

namespace EqualityLaws

open Value MatchingParts

variable {α β Key : Type} {members : Members Key} {u v w x : Value Key} {us vs ws : List (Value Key)}
  {kind kind' : MappingKind} {entries others : List (Key × Value Key)}

/-! ## Values that are not entered -/

theorem same_object_symm (same : u.sameObject v = true) : v.sameObject u = true := by
  unfold sameObject at same
  split at same <;> grind [sameObject]

theorem same_object_trans (same : u.sameObject v = true) (same' : v.sameObject w = true) :
    u.sameObject w = true := by
  unfold sameObject at same
  split at same <;> cases w <;> grind [sameObject]

theorem extended_equal_symm {p q : Number.Extended} (equal : p.equal q = true) : q.equal p = true := by
  cases p <;> cases q <;> simp_all [Number.Extended.equal]

theorem numeral_equal_symm {m n : Numeral} (equal : m.equal n = true) : n.equal m = true := by
  rw [Numeral.equal, Bool.and_eq_true] at equal ⊢
  exact ⟨extended_equal_symm equal.1, extended_equal_symm equal.2⟩

theorem extended_equal_trans {p q r : Number.Extended} (equal : p.equal q = true) (equal' : q.equal r = true) :
    p.equal r = true := by
  cases p <;> cases q <;> cases r <;> simp_all [Number.Extended.equal]

theorem numeral_equal_trans {l m n : Numeral} (equal : l.equal m = true) (equal' : m.equal n = true) :
    l.equal n = true := by
  rw [Numeral.equal, Bool.and_eq_true] at equal equal' ⊢
  exact ⟨extended_equal_trans equal.1 equal'.1, extended_equal_trans equal.2 equal'.2⟩

theorem atoms_symm (matched : u.AtomsMatch v) : v.AtomsMatch u := by
  cases matched with
  | object same => exact .object (same_object_symm same)
  | null => exact .null
  | undefined => exact .undefined
  | octets bytes => exact .octets bytes
  | numbers left right equal => exact .numbers right left (numeral_equal_symm equal)
  | texts left right => exact .texts right left

theorem same_object_comm (v w : Value Key) : v.sameObject w = w.sameObject v :=
  Bool.eq_iff_iff.mpr ⟨same_object_symm, same_object_symm⟩

theorem numeral_equal_comm (m n : Numeral) : m.equal n = n.equal m :=
  Bool.eq_iff_iff.mpr ⟨numeral_equal_symm, numeral_equal_symm⟩

/-- Where no side is entered, the sides may be exchanged whatever they are. -/
theorem atoms_equal_comm (v w : Value Key) : atomsEqual v w = atomsEqual w v := by
  rw [atomsEqual.eq_def v w]
  split
  · cases w <;> rfl
  · cases v <;> rfl
  · rfl
  · rfl
  · rfl
  · simp [atomsEqual, BEq.comm]
  next =>
    split
    next left right => rw [numbers_equal right left, numeral_equal_comm, Bool.or_comm]
    next left right _ => rw [texts_equal right left, BEq.comm]
    next numberless textless =>
      rw [atomsEqual.eq_def w v]
      split <;> try (simp_all; done)
      next =>
        split
        next left right => exact absurd left (numberless _ _ right)
        next left right _ => exact absurd left (textless _ _ right)
        · rw [same_object_comm]

theorem extended_equal_itself {p : Number.Extended} (number : p ≠ .nan) : p.equal p = true := by
  cases p with
  | nan => exact absurd rfl number
  | _ => simp [Number.Extended.equal]

theorem double_value_number {d : Number.Double} (number : d.isNaN = false) : d.value ≠ .nan := by
  cases d with
  | nan => cases number
  | _ => simp [Number.Double.value]

/-- A number equals itself, unless it is no number at all. -/
theorem number_equals_itself {m : Numeral} (number : v.numeral? = some m)
    (comparable : v.differsFromItself = false) : m.equal m = true := by
  have whole (p : Number.Extended) (number : p ≠ .nan) : Numeral.equal ⟨p, .finite 0⟩ ⟨p, .finite 0⟩ = true := by
    rw [Numeral.equal, extended_equal_itself number, extended_equal_itself (by simp), Bool.and_self]
  cases v with
  | bool | int | derivedInt | fraction =>
    cases number
    exact whole _ (by simp)
  | float d =>
    cases number
    exact whole _ (double_value_number comparable)
  | decimal d =>
    cases number
    cases d with
    | nan => cases comparable
    | _ => exact whole _ (by simp [Number.Decimal.value])
  | complex re im =>
    cases number
    rw [differsFromItself, Bool.or_eq_false_iff] at comparable
    rw [Numeral.equal, extended_equal_itself (double_value_number comparable.1),
      extended_equal_itself (double_value_number comparable.2), Bool.and_self]
  | member owner base name value =>
    cases base with
    | integer =>
      cases value with
      | int n =>
        cases number
        exact whole _ (by simp)
      | _ => cases number
    | _ => cases number
  | _ => cases number

theorem atoms_equal_itself (plain : v.isEntered = false) (present : v ≠ .missing)
    (comparable : v.differsFromItself = false) : atomsEqual v v = .ok true := by
  cases number : v.numeral? with
  | some m =>
    have equal := number_equals_itself number comparable
    rw [numbers_equal number number, number_not_refused number (.inl equal), equal]
    rfl
  | none =>
    cases text : v.text? with
    | some s => rw [texts_equal text text, beq_self_eq_true]
    | none =>
      cases v with
      | missing => exact absurd rfl present
      | missingTime => cases comparable
      | null | undefined => rfl
      | octets bytes => simp [atomsEqual]
      | symbol | object | enumClass | callable => simp [atomsEqual, numeral?, text?, sameObject]
      | member => simp [atomsEqual, number, text, sameObject]
      | list | tuple | named | set | mapping | rule => cases plain
      | text | derivedText => cases text
      | _ => cases number

variable [DecidableEq Key]

/-- One object is one number and one text. -/
theorem same_object_means (left : u.UpholdsForm members) (right : v.UpholdsForm members)
    (same : u.sameObject v = true) : u.numeral? = v.numeral? ∧ u.text? = v.text? := by
  unfold sameObject at same
  split at same
  case h_9 =>
    rw [Bool.and_eq_true, beq_iff_eq, beq_iff_eq] at same
    obtain ⟨rfl, rfl⟩ := same
    obtain ⟨rfl, rfl⟩ := Prod.mk.inj (left.symm.trans right)
    exact ⟨rfl, rfl⟩
  all_goals simp_all [numeral?, text?]

/-- Matching for two of the reasons comes to matching for one of them. -/
theorem atoms_trans (left : u.UpholdsForm members) (middle : v.UpholdsForm members) (right : w.UpholdsForm members)
    (first : u.AtomsMatch v) (second : v.AtomsMatch w) : u.AtomsMatch w := by
  cases first with
  | null | undefined | octets => exact second
  | object same =>
    obtain ⟨number, text⟩ := same_object_means left middle same
    cases second with
    | object same' => exact .object (same_object_trans same same')
    | null | undefined | octets => cases u <;> cases same
    | numbers found found' equal => exact .numbers (number.trans found) found' equal
    | texts found found' => exact .texts (text.trans found) found'
  | numbers found found' equal =>
    cases second with
    | object same => exact .numbers found ((same_object_means middle right same).1.symm.trans found') equal
    | null | undefined | octets => cases found'
    | numbers number number' equal' =>
      cases found'.symm.trans number
      exact .numbers found number' (numeral_equal_trans equal equal')
    | texts text _ =>
      rw [number_no_text found'] at text
      cases text
  | texts found found' =>
    cases second with
    | object same => exact .texts found ((same_object_means middle right same).2.symm.trans found')
    | null | undefined | octets => cases found'
    | numbers number _ _ =>
      rw [number_no_text number] at found'
      cases found'
    | texts text text' =>
      cases found'.symm.trans text
      exact .texts found text'

/-! ## Counting partners -/

/-- If every one of several things meets one of equally many others, and no two of them meet the
same, then each of the others is met. -/
theorem partners_met {meets : α → β → Prop} {xs : List α} {ys : List β} (same : xs.length = ys.length)
    (apart : xs.Pairwise fun one other => ∀ y ∈ ys, meets one y → ¬meets other y)
    (met : ∀ x ∈ xs, ∃ y ∈ ys, meets x y) : ∀ y ∈ ys, ∃ x ∈ xs, meets x y := by
  induction xs generalizing ys with
  | nil =>
    intro y among
    rw [List.eq_nil_of_length_eq_zero same.symm] at among
    cases among
  | cons x xs ih =>
    obtain ⟨⟨partner, among, meet⟩, others_met⟩ := List.forall_mem_cons.mp met
    rw [List.pairwise_cons] at apart
    obtain ⟨before, after, rfl⟩ := List.append_of_mem among
    -- Without the partner of the first thing, the others still have theirs.
    have left_met : ∀ other ∈ xs, ∃ y ∈ before ++ after, meets other y := by
      intro other member
      obtain ⟨y, place, meet'⟩ := others_met other member
      refine ⟨y, ?_, meet'⟩
      rw [List.mem_append, List.mem_cons] at place
      rcases place with front | rfl | back
      · exact List.mem_append_left _ front
      · exact absurd meet' (apart.1 other member y among meet)
      · exact List.mem_append_right _ back
    have fewer : xs.length = (before ++ after).length := by
      simp only [List.length_cons, List.length_append] at same ⊢
      omega
    have found := ih fewer (apart.2.imp fun each y place => each y (by simp at place ⊢; tauto)) left_met
    intro y place
    rw [List.mem_append, List.mem_cons] at place
    by_cases own : y = partner
    · exact ⟨x, List.mem_cons_self, own ▸ meet⟩
    · have elsewhere : y ∈ before ++ after := by
        rw [List.mem_append]
        tauto
      obtain ⟨other, member, meet'⟩ := found y elsewhere
      exact ⟨other, List.mem_cons_of_mem _ member, meet'⟩

/-- If entries under distinct keys are found among equally many others, so are the others among them. -/
theorem entries_met {r : Value Key → Value Key → Prop} (distinct : (entries.map (·.1)).Nodup)
    (size : entries.length = others.length)
    (found : ∀ entry ∈ entries, ∃ w, others.lookup entry.1 = some w ∧ r entry.2 w) :
    ∀ other ∈ others, ∃ v, entries.lookup other.1 = some v ∧ r v other.2 := by
  let meets (entry other : Key × Value Key) : Prop := entry.1 = other.1 ∧ r entry.2 other.2
  have apart : entries.Pairwise fun one other => ∀ y ∈ others, meets one y → ¬meets other y := by
    have keys_apart := List.pairwise_map.mp distinct
    exact keys_apart.imp fun differ y place own again => differ (own.1.trans again.1.symm)
  have met : ∀ entry ∈ entries, ∃ other ∈ others, meets entry other := by
    intro entry among
    obtain ⟨w, held, related⟩ := found entry among
    exact ⟨(entry.1, w), Entries.mem_of_lookup held, rfl, related⟩
  intro other place
  obtain ⟨⟨key, v⟩, among, same, related⟩ := partners_met size apart met other place
  exact ⟨v, same ▸ Entries.lookup_of_mem distinct among, related⟩

/-! ## Which side is asked -/

theorem formed_part (formed : v.WellFormed members) (among : x ∈ v.parts) : x.WellFormed members :=
  throughout_part formed among

/-- Where the parts match alike from both sides, so do mappings under distinct keys, whichever of
them is asked. -/
theorem mappings_meet_either_way {turned : Bool} (distinct : (entries.map (·.1)).Nodup)
    (distinct' : (others.map (·.1)).Nodup)
    (each : ∀ entry ∈ entries, ∀ w ∈ others.map (·.2), (entry.2.Meets true w ↔ entry.2.Matches w)) :
    (Value.mapping kind entries).Meets turned (.mapping kind' others) ↔ entries.length = others.length ∧
      (∀ entry ∈ entries, ∃ w, others.lookup entry.1 = some w ∧ entry.2.Matches w) ∧
      (kind = .ordered → kind' = .ordered → entries.map (·.1) = others.map (·.1)) := by
  rw [mappings_meet]
  refine and_congr_right fun size => and_congr_left' ?_
  split
  next =>
    have turn : (∀ other ∈ others, ∃ v, entries.lookup other.1 = some v ∧ v.Meets true other.2) ↔
        ∀ entry ∈ entries, ∃ w, others.lookup entry.1 = some w ∧ entry.2.Meets true w :=
      ⟨fun found => entries_met (r := fun w v => v.Meets true w) distinct' size.symm found,
        fun found => entries_met distinct size found⟩
    rw [turn]
    refine forall₂_congr fun entry among => exists_congr fun w => and_congr_right fun held => ?_
    exact each entry among w (List.mem_map.mpr ⟨_, Entries.mem_of_lookup held, rfl⟩)
  next => exact Iff.rfl

/-- Well-formed values match or not, whichever of them is asked. -/
theorem meets_either_way (left : u.WellFormed members) (right : v.WellFormed members) (turned : Bool) :
    u.Meets turned v ↔ u.Matches v := by
  induction left generalizing v turned with
  | @intro u here inside ih =>
    have each (us vs : List (Value Key)) (among : us = u.parts) (among' : vs = v.parts) (one other : Bool) :
        List.Forall₂ (Meets one) us vs ↔ List.Forall₂ (Meets other) us vs := by
      subst among among'
      exact places_congr fun x part y part' =>
        (ih x part (formed_part right part') one).trans (ih x part (formed_part right part') other).symm
    have tuples (us : List (Value Key)) (places : u.places? = some us) : u.Meets turned v ↔ u.Matches v := by
      rw [places_meet places, Matches, places_meet places]
      refine exists_congr fun vs => and_congr_right fun places' => ?_
      exact each us vs (places_parts places).symm (places_parts places').symm _ _
    cases u with
    | list us =>
      rw [list_meets, Matches, list_meets]
      refine exists_congr fun vs => and_congr_right ?_
      rintro rfl
      exact each us vs rfl rfl _ _
    | tuple us => exact tuples us rfl
    | named type us => exact tuples us rfl
    | set frozen us =>
      rw [set_meets, Matches, set_meets]
      refine exists_congr fun frozen' => exists_congr fun vs => and_congr_right ?_
      rintro rfl
      refine and_congr_right fun _ => forall₂_congr fun x among => exists_congr fun y => and_congr_right fun place => ?_
      exact ih x among (formed_part right place) turned
    | mapping kind entries =>
      have asked (kind' : MappingKind) (others : List (Key × Value Key)) (shape : v = .mapping kind' others) :
          (Value.mapping kind entries).Meets turned v ↔ (Value.mapping kind entries).Matches v := by
        subst shape
        have parts_alike : ∀ entry ∈ entries, ∀ w ∈ others.map (·.2), (entry.2.Meets true w ↔ entry.2.Matches w) :=
          fun entry among w place => ih entry.2 (entry_part among) (formed_part right place) true
        rw [mappings_meet_either_way here (throughout_here right) parts_alike, Matches,
          mappings_meet_either_way here (throughout_here right) parts_alike]
      constructor
      · intro matched
        obtain ⟨kind', others, shape⟩ := mapping_meets_mapping matched
        exact (asked kind' others shape).mp matched
      · intro matched
        obtain ⟨kind', others, shape⟩ := mapping_meets_mapping matched
        exact (asked kind' others shape).mpr matched
    | rule kind part =>
      rw [rule_meets, Matches, rule_meets]
      refine exists_congr fun part' => and_congr_right ?_
      rintro rfl
      have only {v : Value Key} : v ∈ (Value.rule kind v).parts := List.mem_singleton_self v
      exact ih part only (formed_part right only) turned
    | _ => rw [atoms_meet rfl, Matches, atoms_meet rfl]

/-- Well-formed tuples of any type match place by place. -/
theorem places_match (left : u.WellFormed members) (right : v.WellFormed members) (places : u.places? = some us) :
    u.Matches v ↔ ∃ vs, v.places? = some vs ∧ List.Forall₂ Matches us vs := by
  rw [Matches, places_meet places]
  refine exists_congr fun vs => and_congr_right fun places' => places_congr fun x among y place => ?_
  rw [← places_parts places] at among
  rw [← places_parts places'] at place
  exact meets_either_way (formed_part left among) (formed_part right place) _

/-- Well-formed mappings match if they have equally many entries and those of the first are found in
the second. The order of the keys counts only where both are ordered. -/
theorem mappings_match (left : (Value.mapping kind entries).WellFormed members)
    (right : (Value.mapping kind' others).WellFormed members) :
    (Value.mapping kind entries).Matches (.mapping kind' others) ↔ entries.length = others.length ∧
      (∀ entry ∈ entries, ∃ w, others.lookup entry.1 = some w ∧ entry.2.Matches w) ∧
      (kind = .ordered → kind' = .ordered → entries.map (·.1) = others.map (·.1)) :=
  mappings_meet_either_way (throughout_here left) (throughout_here right) fun _ among _ place =>
    meets_either_way (formed_part left (entry_part among)) (formed_part right place) true

/-! ## Matching parts -/

theorem places_symm (each : ∀ x ∈ us, ∀ y ∈ vs, x.Matches y → y.Matches x) (places : List.Forall₂ Matches us vs) :
    List.Forall₂ Matches vs us := by
  apply List.Forall₂.flip
  exact places_imp each places

theorem places_trans (each : ∀ x ∈ us, ∀ y ∈ vs, ∀ z ∈ ws, x.Matches y → y.Matches z → x.Matches z)
    (first : List.Forall₂ Matches us vs) (second : List.Forall₂ Matches vs ws) : List.Forall₂ Matches us ws := by
  induction first generalizing ws with
  | nil =>
    cases second
    exact .nil
  | @cons x y us vs head others ih =>
    cases second with
    | @cons _ z _ ws head' others' =>
      refine .cons (each x List.mem_cons_self y List.mem_cons_self z List.mem_cons_self head head') ?_
      refine ih (fun x among y place z place' => ?_) others'
      exact each x (List.mem_cons_of_mem _ among) y (List.mem_cons_of_mem _ place) z (List.mem_cons_of_mem _ place')

/-- Matching is transitive from a value on that a set can hold. -/
theorem matches_trans (item : u.Throughout (·.canBeItem = true)) (left : u.WellFormed members)
    (middle : v.WellFormed members) (right : w.WellFormed members) (first : u.Matches v) (second : v.Matches w) :
    u.Matches w := by
  induction item generalizing v w with
  | @intro u here inside ih =>
    have tuples (us : List (Value Key)) (places : u.places? = some us) : u.Matches w := by
      obtain ⟨vs, places', matched⟩ := (places_match left middle places).mp first
      obtain ⟨ws, places'', matched'⟩ := (places_match middle right places').mp second
      refine (places_match left right places).mpr
        ⟨ws, places'', places_trans (fun x among y place z place' => ?_) matched matched'⟩
      rw [← places_parts places] at among
      rw [← places_parts places'] at place
      rw [← places_parts places''] at place'
      exact ih x among (formed_part left among) (formed_part middle place) (formed_part right place')
    cases u with
    | list | mapping => cases here
    | tuple us => exact tuples us rfl
    | named type us => exact tuples us rfl
    | set frozen us =>
      obtain ⟨frozen', vs, rfl, size, found⟩ := set_meets.mp first
      obtain ⟨frozen'', ws, rfl, size', found'⟩ := set_meets.mp second
      refine set_meets.mpr ⟨frozen'', ws, rfl, size.trans size', fun x among => ?_⟩
      obtain ⟨y, place, matched⟩ := found x among
      obtain ⟨z, place', matched'⟩ := found' y place
      exact ⟨z, place', ih x among (formed_part left among) (formed_part middle place) (formed_part right place')
        matched matched'⟩
    | rule kind part =>
      obtain ⟨part', rfl, matched⟩ := rule_meets.mp first
      obtain ⟨part'', rfl, matched'⟩ := rule_meets.mp second
      have only {v : Value Key} : v ∈ (Value.rule kind v).parts := List.mem_singleton_self v
      exact rule_meets.mpr ⟨part'', rfl, ih part only (formed_part left only) (formed_part middle only)
        (formed_part right only) matched matched'⟩
    | _ =>
      have matched := (atoms_meet rfl).mp first
      have matched' := (atoms_meet (atoms_match_plain matched).2).mp second
      exact (atoms_meet rfl).mpr (atoms_trans (throughout_here left) (throughout_here middle)
        (throughout_here right) matched matched')

/-- Matching of well-formed values is symmetric. -/
theorem matches_symm (left : u.WellFormed members) (right : v.WellFormed members) (matched : u.Matches v) :
    v.Matches u := by
  have whole := left
  induction left generalizing v with
  | @intro u here inside ih =>
    have symm {x y : Value Key} (among : x ∈ u.parts) (place : y ∈ v.parts) (matched : x.Matches y) : y.Matches x :=
      ih x among (formed_part right place) matched (inside x among)
    have tuples (us : List (Value Key)) (places : u.places? = some us) : v.Matches u := by
      obtain ⟨vs, places', found⟩ := (places_match whole right places).mp matched
      refine (places_match right whole places').mpr ⟨us, places, places_symm (fun x among y place => ?_) found⟩
      rw [← places_parts places] at among
      rw [← places_parts places'] at place
      exact symm among place
    cases u with
    | list us =>
      obtain ⟨vs, rfl, places⟩ := list_meets.mp matched
      exact list_meets.mpr ⟨us, rfl, places_symm (fun x among y place => symm among place) places⟩
    | tuple us => exact tuples us rfl
    | named type us => exact tuples us rfl
    | set frozen us =>
      obtain ⟨frozen', vs, rfl, size, found⟩ := set_meets.mp matched
      obtain ⟨different, items⟩ := here
      -- Two items that meet one item of the other set would match each other.
      have apart : us.Pairwise fun one other => ∀ y ∈ vs, one.Matches y → ¬other.Matches y := by
        refine different.imp_of_mem fun {one other} among among' differ y place meets meets' => ?_
        exact differ (matches_trans (items one among) (inside one among) (formed_part right place)
          (inside other among') meets (symm among' place meets'))
      refine set_meets.mpr ⟨frozen, us, rfl, size.symm, fun y place => ?_⟩
      obtain ⟨x, among, meets⟩ := partners_met size apart found y place
      exact ⟨x, among, symm among place meets⟩
    | mapping kind entries =>
      obtain ⟨kind', others, rfl⟩ := mapping_meets_mapping matched
      obtain ⟨size, found, order⟩ := (mappings_match whole right).mp matched
      refine (mappings_match right whole).mpr ⟨size.symm, fun other place => ?_, fun ordered ordered' =>
        (order ordered' ordered).symm⟩
      obtain ⟨x, held, meets⟩ := entries_met here size found other place
      exact ⟨x, held, symm (entry_part (Entries.mem_of_lookup held)) (entry_part place) meets⟩
    | rule kind part =>
      obtain ⟨part', rfl, found⟩ := rule_meets.mp matched
      have only {v : Value Key} : v ∈ (Value.rule kind v).parts := List.mem_singleton_self v
      exact rule_meets.mpr ⟨part, rfl, symm only only found⟩
    | _ =>
      have found := (atoms_meet rfl).mp matched
      exact (atoms_meet (atoms_match_plain found).2).mpr (atoms_symm found)

/-! ## Values and themselves -/

/-- A well-formed value matches itself, as long as nothing in it differs from itself. -/
theorem matches_itself (formed : v.WellFormed members) (comparable : v.Throughout (·.differsFromItself = false)) :
    v.Matches v := by
  induction comparable with
  | @intro v here inside ih =>
    have each (x : Value Key) (among : x ∈ v.parts) : x.Matches x := ih x among (formed_part formed among)
    have tuples (vs : List (Value Key)) (places : v.places? = some vs) : v.Matches v := by
      refine (places_match formed formed places).mpr ⟨vs, places, List.forall₂_same.mpr fun x among => each x ?_⟩
      rwa [places_parts places]
    cases v with
    | list items => exact list_meets.mpr ⟨items, rfl, List.forall₂_same.mpr each⟩
    | tuple items => exact tuples items rfl
    | named type items => exact tuples items rfl
    | set frozen items => exact set_meets.mpr ⟨frozen, items, rfl, rfl, fun x among => ⟨x, among, each x among⟩⟩
    | mapping kind entries =>
      refine (mappings_match formed formed).mpr ⟨rfl, fun entry among => ?_, fun _ _ => rfl⟩
      exact ⟨entry.2, Entries.lookup_of_mem (throughout_here formed) among, each entry.2 (entry_part among)⟩
    | rule kind part => exact rule_meets.mpr ⟨part, rfl, each part (List.mem_singleton_self _)⟩
    | missing => exact (atoms_meet rfl).mpr (.object rfl)
    | _ => exact (atoms_meet rfl).mpr (atoms_equal_match (atoms_equal_itself rfl (by simp) here))

/-! ## Strict equality -/

/-- Comparisons that enter values and have an outcome come to the same if they match alike. -/
theorem equal_alike {left right : Value Key} (entered : u.isEntered = true) (entered' : left.isEntered = true)
    (comparable : u.Comparable ∧ v.Comparable) (comparable' : left.Comparable ∧ right.Comparable)
    (alike : u.Matches v ↔ left.Matches right) : equal u v = equal left right := by
  obtain ⟨b, found⟩ : ∃ b, equal u v = .ok b := Comparison.equal_determined comparable.1 comparable.2
  obtain ⟨c, found'⟩ : ∃ c, equal left right = .ok c := Comparison.equal_determined comparable'.1 comparable'.2
  rw [Matches, entered_meets entered, Matches, entered_meets entered', ← equal, ← equal, found, found',
    Except.ok.injEq, Except.ok.injEq] at alike
  rw [found, found', Except.ok.injEq, Bool.eq_iff_iff]
  exact alike

/-- Well-formed values are loosely equal both ways or neither way. -/
theorem equal_symm (left : u.WellFormed members) (right : v.WellFormed members) (found : equal u v = .ok true) :
    equal v u = .ok true := by
  by_cases entered : u.isEntered = true ∧ v.isEntered = true
  · have matched : v.Matches u := matches_symm left right ((entered_meets entered.1).mpr found)
    exact (entered_meets entered.2).mp matched
  · have plain : u.isEntered = false ∨ v.isEntered = false := by
      simpa only [Bool.not_eq_true, not_and_or] using entered
    rw [equal, equal_plain plain] at found
    rw [equal, equal_plain plain.symm, atoms_equal_comm, found]

/-- Loose equality of well-formed values that can be compared is symmetric. -/
theorem equal_comm (left : u.WellFormed members) (right : v.WellFormed members) (comparable : u.Comparable)
    (comparable' : v.Comparable) : equal u v = equal v u := by
  obtain ⟨b, found⟩ : ∃ b, equal u v = .ok b := Comparison.equal_determined comparable comparable'
  obtain ⟨c, found'⟩ : ∃ c, equal v u = .ok c := Comparison.equal_determined comparable' comparable
  have forth := equal_symm left right
  have back := equal_symm right left
  rw [found, found', Except.ok.injEq, Except.ok.injEq] at forth back
  rw [found, found', Except.ok.injEq, Bool.eq_iff_iff]
  exact ⟨forth, back⟩

theorem equal_itself (formed : v.WellFormed members) (comparable : v.Comparable)
    (number : v.Throughout (·.differsFromItself = false)) : equal v v = .ok true := by
  cases entered : v.isEntered with
  | true => exact (entered_meets entered).mp (matches_itself formed number)
  | false =>
    rw [equal, equal_plain (.inl entered)]
    refine atoms_equal_itself entered ?_ (throughout_here number)
    rintro rfl
    cases throughout_here comparable

/-- Kinds and types are compared in the same way from both sides. -/
theorem strict_equal_comm (loose : equal u v = equal v u) : strictEqual u v = strictEqual v u := by
  unfold strictEqual
  by_cases kinds : u.kind = v.kind
  · simp only [kinds, loose, ne_comm (a := u.type)]
  · simp only [ne_eq, kinds, Ne.symm kinds, not_false_eq_true, if_true]

/-- Well-formed values are strictly equal both ways or neither way. -/
theorem strict_equal_symm (left : u.WellFormed members) (right : v.WellFormed members)
    (found : strictEqual u v = .ok true) : strictEqual v u = .ok true := by
  obtain ⟨kinds, alone | alone | ⟨loose, types⟩⟩ := Comparison.strict_equal_cases found
  · simp [strictEqual, ← kinds, alone]
  · simp [strictEqual, ← kinds, alone]
  · rw [← found]
    exact strict_equal_comm ((equal_symm left right loose).trans loose.symm)

/-- Strict equality is symmetric, and reflexive away from what differs from itself. Equality itself
is symmetric for all values. That the two ways come to the same also where they find no equality
holds of values without a missing cell and without a signalling decimal; others may be told
apart one way and refuse to be compared the other way. Of the keys of mappings nothing is asked
but which of them are the same, so they may be of any type. -/
theorem strict_equality_laws {Key : Type} [DecidableEq Key] (members : Members Key) :
    (∀ left right : Value Key, left.WellFormed members → right.WellFormed members →
      (strictEqual left right = .ok true ↔ strictEqual right left = .ok true) ∧
      (left.Comparable → right.Comparable →
        ∃ b, strictEqual left right = .ok b ∧ strictEqual right left = .ok b)) ∧
    (∀ v : Value Key, v.WellFormed members → v.Comparable → v.Throughout (·.differsFromItself = false) →
      strictEqual v v = .ok true) := by
  constructor
  · intro left right formed formed'
    refine ⟨⟨strict_equal_symm formed formed', strict_equal_symm formed' formed⟩, fun comparable comparable' => ?_⟩
    obtain ⟨b, found⟩ := Comparison.strict_equal_determined comparable comparable'
    refine ⟨b, found, ?_⟩
    rw [← found, strict_equal_comm (equal_comm formed formed' comparable comparable')]
  · intro v formed comparable number
    have equal := equal_itself formed comparable number
    unfold strictEqual
    simp only [ne_eq, not_true_eq_false, if_false, equal]
    split <;> rfl

/-- Two lists of a set and a mapping that agree in nothing but what they count as: a truth
value, a number in four formats, a member of a class, a tuple of a derived type, an order of
keys. Each of them also equals itself. -/
theorem walkthrough_equal_lists :
    let members : Members := fun _ _ => (.integer, .int 10)
    let pair : TupleType := ⟨"Pair", ["first", "second"]⟩
    let items := [.int 1, .tuple [.text "a", .bool true], .member "Level" .integer "HIGH" (.int 10)]
    let others := [.decimal (.finite false 1 1), .named pair [.derivedText "a", .int 1],
      .complex (.finite false 1 0) (.finite true 0 0)]
    let left := Value.list [.set false items,
      .mapping .ordered [("x", .float (.finite false 1 (-1))), ("y", .null)]]
    let right := Value.list [.set true others,
      .mapping .readOnly [("y", .null), ("x", .fraction (1 / 2))]]
    left.WellFormed members ∧ right.WellFormed members ∧ left.Comparable ∧ right.Comparable ∧
      strictEqual left right = .ok true ∧ strictEqual right left = .ok true ∧
      strictEqual left left = .ok true := by
  intro members pair items others left right
  have formed : left.WellFormed members := by
    have apart : items.Pairwise fun one other => ¬one.Matches other := by decide +kernel
    simpa [left, items, members, WellFormed, UpholdsForm, canBeItem] using apart
  have formed' : right.WellFormed members := by
    have apart : others.Pairwise fun one other => ¬one.Matches other := by decide +kernel
    simpa [right, others, WellFormed, UpholdsForm, canBeItem] using apart
  have comparable : left.Comparable := by simp [left, items, Comparable, refusal?]
  have comparable' : right.Comparable := by
    simp [right, others, Comparable, refusal?, Number.Decimal.isSignalling]
  have number : left.Throughout (·.differsFromItself = false) := by
    simp [left, items, differsFromItself, Number.Double.isNaN]
  have equal : strictEqual left right = .ok true := by decide +kernel
  obtain ⟨b, there, back⟩ := ((strict_equality_laws members).1 left right formed formed').2 comparable comparable'
  cases equal.symm.trans there
  exact ⟨formed, formed', comparable, comparable', equal, back,
    (strict_equality_laws members).2 left formed comparable number⟩

/-- Two mappings without a missing cell, one of which holds a signalling decimal under its first key and
a difference under its second. Asked about the other one, which holds the difference first, it
refuses to be compared; the other one, asked about it, differs. -/
theorem signalling_decimal_refused_one_way :
    let members : Members := fun _ _ => (.plain, .null)
    let left := Value.mapping .plain [("a", .decimal (.nan true false none)), ("b", .int 1)]
    let right := Value.mapping .plain [("b", .int 2), ("a", .decimal (.finite false 0 0))]
    left.WellFormed members ∧ right.WellFormed members ∧
      left.Throughout (· ≠ .missing) ∧ right.Throughout (· ≠ .missing) ∧
      strictEqual left right = .error .signalled ∧ strictEqual right left = .ok false := by
  intro members left right
  refine ⟨?_, ?_, ?_, ?_, by decide +kernel, by decide +kernel⟩
  · simp [left, WellFormed, UpholdsForm]
  · simp [right, WellFormed, UpholdsForm]
  · simp [left]
  · simp [right]

end EqualityLaws
end RecordSchema
