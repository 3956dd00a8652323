import RecordSchema.Proofs.EqualityLaws

/-! How far strictness reaches. Strict equality compares kinds at the top and nowhere else, so
of two values that are strictly equal it can be asked what stands at one position in both. On
plain data the answer is: values of one kind, or a truth value and the number that it counts
as, and the latter at any position below the top. It also goes the other way round. What
comes of comparing two containers depends on nothing but their forms in which every truth value is
told as its number, so that no container tells truth values from numbers. -/
namespace RecordSchema
namespace Value

/-- Whether the top of a value may stand in plain data. -/
def isPlain : Value → Bool
  | .null | .bool _ | .int _ | .float _ | .text _ | .list _ | .tuple _ | .mapping .plain _ => true
  | _ => false

/-- Plain data: what is made of nothing but the empty value, truth values, integers, floats and
texts, by lists, tuples and plain mappings. -/
def PlainData (v : Value) : Prop := v.Throughout (·.isPlain = true)

/-- A way from a container to one of its parts. -/
inductive Access where
  | place (index : Nat)
  | key (name : String)
  deriving DecidableEq, Repr

/-- The part of a value at a place or under a key. -/
def part? : Value → Access → Option Value
  | .list items, .place index | .tuple items, .place index | .named _ items, .place index => items[index]?
  | .mapping _ entries, .key name => entries.lookup name
  | _, _ => none

/-- What stands in a value at a position, which is given by the ways that lead there from the top. -/
def at? (v : Value) : List Access → Option Value
  | [] => some v
  | access :: rest => (v.part? access).bind (·.at? rest)

/-- Whether a value is a truth value and another one is the number 0 or 1 that it counts as. -/
def CountsAs (truth number : Value) : Prop :=
  ∃ b, truth = .bool b ∧ number.kind = .number ∧ number.numeral? = truth.numeral?

mutual
/-- The form of a value in which every truth value in it is told as the number 0 or 1. -/
def numbered : Value → Value
  | .bool b => .int (if b then 1 else 0)
  | .list items => .list (itemsNumbered items)
  | .tuple items => .tuple (itemsNumbered items)
  | .mapping kind entries => .mapping kind (entriesNumbered entries)
  | v => v
termination_by structural v => v

/-- The numbered forms of several values. -/
def itemsNumbered : List Value → List Value
  | [] => []
  | v :: vs => v.numbered :: itemsNumbered vs
termination_by structural vs => vs

/-- The numbered forms of the values under several keys. -/
def entriesNumbered : List (String × Value) → List (String × Value)
  | [] => []
  | (key, v) :: rest => (key, v.numbered) :: entriesNumbered rest
termination_by structural entries => entries
end

end Value

namespace EqualPositions

open Value MatchingParts

variable {v w x y left right : Value} {xs ys items : List Value} {entries others : List (String × Value)}
  {access : Access} {path : List Access}

/-! ## Positions in matching values -/

theorem loose_matches (loose : equal v w = .ok true) : v.Matches w := by
  unfold Matches Meets compareParts asParts
  rw [← equal, loose]
  split <;> rfl

/-- Plain tuples match place by place. -/
theorem tuples_match : (Value.tuple xs).Matches (.tuple ys) ↔ List.Forall₂ Matches xs ys := by
  rw [Matches, places_meet rfl]
  simp [places?, placesTurned]

/-- Plain mappings match if they have equally many entries and those of the first are found in the second. -/
theorem mappings_match : (Value.mapping .plain entries).Matches (.mapping .plain others) ↔
    entries.length = others.length ∧
      ∀ entry ∈ entries, ∃ w, others.lookup entry.1 = some w ∧ entry.2.Matches w := by
  rw [Matches, mappings_meet]
  simp [MappingKind.asksRight, MappingKind.yieldsTo]

/-- Plain data matches plain data of one shape. -/
theorem plain_shapes (plain : w.isPlain = true) (matched : v.Matches w) :
    (∀ items, v = .list items → ∃ others, w = .list others) ∧
    (∀ items, v = .tuple items → ∃ others, w = .tuple others) ∧
    (∀ entries, v = .mapping .plain entries → ∃ others, w = .mapping .plain others) := by
  refine ⟨?_, ?_, ?_⟩
  · rintro items rfl
    obtain ⟨others, rfl, -⟩ := list_meets.mp matched
    exact ⟨others, rfl⟩
  · rintro items rfl
    obtain ⟨others, places, -⟩ := (places_meet rfl).mp matched
    cases w with
    | tuple others => exact ⟨others, rfl⟩
    | named => cases plain
    | _ => cases places
  · rintro entries rfl
    obtain ⟨kind, others, rfl⟩ := mapping_meets_mapping matched
    cases kind with
    | plain => exact ⟨others, rfl⟩
    | _ => cases plain

/-- Two kinds have one value each. -/
theorem kind_alone (alone : v.kind = .undefined ∨ v.kind = .null) (same : v.kind = w.kind) : v.Matches w := by
  have only (u : Value) : (u.kind = .undefined → u = .undefined) ∧ (u.kind = .null → u = .null) := by
    cases u with
    | member owner base name value => cases base <;> simp [kind]
    | _ => simp [kind]
  rcases alone with undefined | null
  · rw [(only v).1 undefined, (only w).1 (same ▸ undefined)]
    exact loose_matches rfl
  · rw [(only v).2 null, (only w).2 (same ▸ null)]
    exact loose_matches rfl

/-- Strictly equal values are of one kind and match. -/
theorem strict_equal_matches (equal : strictEqual v w = .ok true) : v.kind = w.kind ∧ v.Matches w := by
  obtain ⟨same, undefined | null | ⟨loose, -⟩⟩ := Comparison.strict_equal_cases equal
  · exact ⟨same, kind_alone (.inl undefined) same⟩
  · exact ⟨same, kind_alone (.inr null) same⟩
  · exact ⟨same, loose_matches loose⟩

theorem place_matches (places : List.Forall₂ Matches xs ys) {index : Nat} (reached : xs[index]? = some x) :
    ∃ y, ys[index]? = some y ∧ x.Matches y := by
  obtain ⟨inside, rfl⟩ := List.getElem?_eq_some_iff.mp reached
  have inside' : index < ys.length := places.length_eq ▸ inside
  exact ⟨ys[index], List.getElem?_eq_getElem inside', places.get inside inside'⟩

/-- What a way leads to in one of two matching values has its match where the same way leads in
the other. -/
theorem part_matches (plain : v.isPlain = true) (plain' : w.isPlain = true) (matched : v.Matches w)
    (reached : v.part? access = some x) : ∃ y, w.part? access = some y ∧ x.Matches y := by
  obtain ⟨lists, tuples, mappings⟩ := plain_shapes plain' matched
  cases access with
  | place index =>
    cases v with
    | list items =>
      obtain ⟨others, rfl⟩ := lists items rfl
      obtain ⟨_, ⟨⟩, places⟩ := list_meets.mp matched
      exact place_matches places reached
    | tuple items =>
      obtain ⟨others, rfl⟩ := tuples items rfl
      exact place_matches (tuples_match.mp matched) reached
    | named => cases plain
    | _ => cases reached
  | key name =>
    cases v with
    | mapping kind entries =>
      cases kind with
      | plain =>
        obtain ⟨others, rfl⟩ := mappings entries rfl
        exact (mappings_match.mp matched).2 (name, x) (Entries.mem_of_lookup reached)
      | _ => cases plain
    | _ => cases reached

theorem part_among (reached : v.part? access = some x) : x ∈ v.parts := by
  cases access with
  | place index =>
    cases v with
    | list | tuple | named => exact List.mem_of_getElem? reached
    | _ => cases reached
  | key name =>
    cases v with
    | mapping kind entries => exact entry_part (Entries.mem_of_lookup reached)
    | _ => cases reached

/-- What stands at a position of one of two matching values has its match at the same position
of the other, and both are plain data again. -/
theorem at_matches (plain : v.PlainData) (plain' : w.PlainData) (matched : v.Matches w)
    (reached : v.at? path = some x) :
    ∃ y, w.at? path = some y ∧ x.Matches y ∧ x.PlainData ∧ y.PlainData := by
  induction path generalizing v w with
  | nil =>
    cases reached
    exact ⟨w, rfl, matched, plain, plain'⟩
  | cons access rest ih =>
    obtain ⟨part, lead, reached⟩ := Option.bind_eq_some_iff.mp reached
    obtain ⟨other, lead', matched'⟩ := part_matches (throughout_here plain) (throughout_here plain') matched lead
    have inside := throughout_part plain (part_among lead)
    have inside' := throughout_part plain' (part_among lead')
    obtain ⟨y, reached', found⟩ := ih inside inside' matched' reached
    exact ⟨y, Option.bind_eq_some_iff.mpr ⟨other, lead', reached'⟩, found⟩

/-! ## Kinds of matching values -/

theorem plain_number {m : Numeral} (plain : v.isPlain = true) (number : v.numeral? = some m) :
    (∃ b, v = .bool b) ∨ v.kind = .number := by
  cases v with
  | bool b => exact .inl ⟨b, rfl⟩
  | int | float => exact .inr rfl
  | null | text | list | tuple | mapping => cases number
  | _ => cases plain

theorem plain_text {s : String} (plain : v.isPlain = true) (text : v.text? = some s) : v.kind = .string := by
  cases v with
  | text => rfl
  | null | bool | int | float | list | tuple | mapping => cases text
  | _ => cases plain

theorem extended_equal_finite {q : Rat} {p : Number.Extended} :
    Number.Extended.equal (.finite q) p = true ↔ p = .finite q := by
  cases p with
  | finite r => simp [Number.Extended.equal, eq_comm (a := q)]
  | _ => simp [Number.Extended.equal]

/-- A number of finite parts equals no other one. -/
theorem numeral_equal_finite {p q : Rat} {n : Numeral} (equal : Numeral.equal ⟨.finite p, .finite q⟩ n = true) :
    n = ⟨.finite p, .finite q⟩ := by
  rw [Numeral.equal, Bool.and_eq_true, extended_equal_finite, extended_equal_finite] at equal
  obtain ⟨re, im⟩ := n
  obtain ⟨rfl, rfl⟩ := equal
  rfl

/-- A truth value matches a number only if it counts as that number. -/
theorem truth_counts {m n : Numeral} {b : Bool} (truth : v = .bool b) (number : w.kind = .number)
    (left : v.numeral? = some m) (right : w.numeral? = some n) (equal : m.equal n = true) : v.CountsAs w := by
  subst truth
  refine ⟨b, rfl, number, ?_⟩
  cases left
  rw [right, numeral_equal_finite equal]
  rfl

/-- Matching values in plain data are of one kind, or a truth value and its number. -/
theorem plain_kinds (plain : v.isPlain = true) (plain' : w.isPlain = true) (matched : v.Matches w) :
    v.kind = w.kind ∨ v.CountsAs w ∨ w.CountsAs v := by
  cases entered : v.isEntered with
  | true =>
    left
    obtain ⟨lists, tuples, mappings⟩ := plain_shapes plain' matched
    cases v with
    | list items =>
      obtain ⟨others, rfl⟩ := lists items rfl
      rfl
    | tuple items =>
      obtain ⟨others, rfl⟩ := tuples items rfl
      rfl
    | mapping kind entries =>
      cases kind with
      | plain =>
        obtain ⟨others, rfl⟩ := mappings entries rfl
        rfl
      | _ => cases plain
    | named | set | rule => cases plain
    | _ => cases entered
  | false =>
    cases (atoms_meet entered).mp matched with
    | object same =>
      cases v with
      | float => cases w with
        | float => exact .inl rfl
        | _ => cases same
      | null | bool | int | text => cases w <;> cases same
      | list | tuple | mapping => cases entered
      | _ => cases plain
    | null | undefined | octets => exact .inl rfl
    | texts text text' => exact .inl ((plain_text plain text).trans (plain_text plain' text').symm)
    | numbers number number' equal =>
      rcases plain_number plain number with ⟨b, truth⟩ | real
      · rcases plain_number plain' number' with ⟨c, truth'⟩ | real'
        · exact .inl (by rw [truth, truth']; rfl)
        · exact .inr (.inl (truth_counts truth real' number number' equal))
      · rcases plain_number plain' number' with ⟨c, truth'⟩ | real'
        · exact .inr (.inr (truth_counts truth' real number' number (EqualityLaws.numeral_equal_symm equal)))
        · exact .inl (real.trans real'.symm)

/-! ## Numbered forms -/

theorem items_numbered (items : List Value) : itemsNumbered items = items.map numbered := by
  induction items with
  | nil => rfl
  | cons v vs ih => rw [itemsNumbered, ih, List.map_cons]

theorem entries_numbered (entries : List (String × Value)) :
    entriesNumbered entries = entries.map fun entry => (entry.1, entry.2.numbered) := by
  induction entries with
  | nil => rfl
  | cons entry rest ih => rw [entriesNumbered, ih, List.map_cons]

theorem lookup_numbered (key : String) (entries : List (String × Value)) :
    (entriesNumbered entries).lookup key = (entries.lookup key).map numbered := by
  induction entries with
  | nil => rfl
  | cons entry rest ih =>
    rw [entriesNumbered, List.lookup_cons, List.lookup_cons, ih]
    split <;> rfl

theorem numbered_parts (plain : v.isPlain = true) : v.numbered.parts = v.parts.map numbered := by
  cases v with
  | list items | tuple items => exact items_numbered items
  | mapping kind entries =>
    rw [numbered, parts, parts, entries_numbered, List.map_map, List.map_map]
    rfl
  | null | bool | int | float | text => rfl
  | _ => cases plain

theorem numbered_top (plain : v.isPlain = true) : v.numbered.isPlain = true := by
  cases v with
  | null | bool | int | float | text | list | tuple => rfl
  | mapping kind =>
    cases kind with
    | plain => rfl
    | _ => cases plain
  | _ => cases plain

theorem numbered_plain (plain : v.PlainData) : v.numbered.PlainData := by
  induction plain with
  | @intro v here inside ih =>
    refine .intro (numbered_top here) ?_
    rw [numbered_parts here, List.forall_mem_map]
    exact ih

/-- Nothing in plain data refuses to be compared. -/
theorem plain_comparable (plain : v.PlainData) : v.Comparable := by
  induction plain with
  | @intro v here inside ih =>
    refine .intro ?_ ih
    cases v with
    | missing | decimal => cases here
    | _ => rfl

/-- A value counts as the same number and is the same text in its numbered form. -/
theorem numbered_means (plain : v.isPlain = true) : v.numbered.numeral? = v.numeral? ∧
    v.numbered.text? = v.text? ∧ (v.numbered = .null ↔ v = .null) := by
  cases v with
  | bool b => cases b <;> simp [numbered, numeral?, text?]
  | null | int | float | text | list | tuple | mapping => exact ⟨rfl, rfl, by simp [numbered]⟩
  | _ => cases plain

/-- The only objects of plain data that are known by their identity have no other numbered form. -/
theorem numbered_object (plain : v.isPlain = true) (plain' : w.isPlain = true) :
    v.numbered.sameObject w.numbered = v.sameObject w := by
  cases v with
  | null | bool | int | float | text | list | tuple | mapping =>
    cases w with
    | null | bool | int | float | text | list | tuple | mapping => rfl
    | _ => cases plain'
  | _ => cases plain

/-- Why a value of plain data that is not entered matches another one. -/
theorem plain_atoms_match (plain : v.isPlain = true) : v.AtomsMatch w ↔ v.sameObject w = true ∨
    v = .null ∧ w = .null ∨ (∃ m n, v.numeral? = some m ∧ w.numeral? = some n ∧ m.equal n = true) ∨
    (∃ s, v.text? = some s ∧ w.text? = some s) := by
  constructor
  · intro matched
    cases matched with
    | object same => exact .inl same
    | null => exact .inr (.inl ⟨rfl, rfl⟩)
    | undefined | octets => cases plain
    | numbers left right equal => exact .inr (.inr (.inl ⟨_, _, left, right, equal⟩))
    | texts left right => exact .inr (.inr (.inr ⟨_, left, right⟩))
  · rintro (same | ⟨rfl, rfl⟩ | ⟨m, n, left, right, equal⟩ | ⟨s, left, right⟩)
    · exact .object same
    · exact .null
    · exact .numbers left right equal
    · exact .texts left right

/-- Whether plain data matches is seen from the numbered forms. -/
theorem numbered_matches (plain : v.PlainData) (plain' : w.PlainData) :
    v.numbered.Matches w.numbered ↔ v.Matches w := by
  induction plain generalizing w with
  | @intro v here inside ih =>
    have here' := throughout_here plain'
    have each {x y : Value} (among : x ∈ v.parts) (place : y ∈ w.parts) :
        x.numbered.Matches y.numbered ↔ x.Matches y := ih x among (throughout_part plain' place)
    cases v with
    | list items =>
      cases w with
      | list others =>
        simp only [numbered, items_numbered, Matches, list_meets, list.injEq, exists_eq_left', List.forall₂_map_left_iff,
          List.forall₂_map_right_iff]
        exact places_congr fun x among y place => each among place
      | _ => simp [numbered, list_meets]
    | tuple items =>
      cases w with
      | tuple others =>
        rw [numbered, numbered, items_numbered, items_numbered, tuples_match, tuples_match, List.forall₂_map_left_iff,
          List.forall₂_map_right_iff]
        exact places_congr fun x among y place => each among place
      | named => cases here'
      | _ => simp [numbered, places_meet, places?]
    | mapping kind entries =>
      cases kind with
      | plain =>
        cases w with
        | mapping kind' others =>
          cases kind' with
          | plain =>
            have found (entry : String × Value) (among : entry ∈ entries) :
                (∃ y, (entriesNumbered others).lookup entry.1 = some y ∧ entry.2.numbered.Matches y) ↔
                  ∃ y, others.lookup entry.1 = some y ∧ entry.2.Matches y := by
              have under {y : Value} (held : others.lookup entry.1 = some y) :
                  entry.2.numbered.Matches y.numbered ↔ entry.2.Matches y :=
                each (entry_part among) (entry_part (Entries.mem_of_lookup held))
              simp only [lookup_numbered, Option.map_eq_some_iff]
              constructor
              · rintro ⟨_, ⟨y, held, rfl⟩, found⟩
                exact ⟨y, held, (under held).mp found⟩
              · rintro ⟨y, held, found⟩
                exact ⟨y.numbered, ⟨y, held, rfl⟩, (under held).mpr found⟩
            rw [numbered, numbered, mappings_match, mappings_match, entries_numbered entries, List.length_map,
              List.forall_mem_map, forall₂_congr found, entries_numbered others, List.length_map]
          | _ => cases here'
        | _ =>
          refine iff_of_false (fun matched => ?_) (fun matched => ?_) <;>
            obtain ⟨_, _, shape⟩ := mapping_meets_mapping matched <;> cases shape
      | _ => cases here
    | null | bool | int | float | text =>
      obtain ⟨number, text, null⟩ := numbered_means here
      obtain ⟨number', text', null'⟩ := numbered_means here'
      rw [Matches, atoms_meet rfl, Matches, atoms_meet rfl, plain_atoms_match (numbered_top here),
        plain_atoms_match here, numbered_object here here', number, number', text, text', null, null']
    | _ => cases here

/-! ## Strictness -/

theorem numbered_container (plain : v.isPlain = true) (entered : v.isEntered = true) :
    v.numbered.isEntered = true ∧ v.numbered.kind = v.kind ∧ v.numbered.type = v.type := by
  cases v with
  | list | tuple | mapping => exact ⟨rfl, rfl, rfl⟩
  | named | set | rule => cases plain
  | _ => cases entered

/-- In plain data what is entered is told by its kind from what is not, in the numbered form too. -/
theorem atom_of_other_kind (plain : v.isPlain = true) (entered : v.isEntered = true) (plain' : w.isPlain = true)
    (atom : w.isEntered = false) : v.kind ≠ w.kind ∧ v.kind ≠ w.numbered.kind := by
  have container : v.kind = .array ∨ v.kind = .object := by
    cases v with
    | list | tuple => exact .inl rfl
    | mapping => exact .inr rfl
    | named | set | rule => cases plain
    | _ => cases entered
  have other : ∀ kind ∈ [Kind.array, .object], kind ≠ w.kind ∧ kind ≠ w.numbered.kind := by
    cases w with
    | null | bool | int | float | text => simp [kind, numbered]
    | list | tuple | mapping => cases atom
    | _ => cases plain'
  exact other v.kind (by simpa using container)

/-- Strict equality of a container with plain data is that of the numbered forms. -/
theorem strict_equal_numbered (plain : left.PlainData) (plain' : right.PlainData) (entered : left.isEntered = true) :
    strictEqual left.numbered right.numbered = strictEqual left right := by
  have here := throughout_here plain
  have here' := throughout_here plain'
  obtain ⟨entered_form, kind, type⟩ := numbered_container here entered
  unfold strictEqual
  cases entered' : right.isEntered with
  | false =>
    obtain ⟨other, other'⟩ := atom_of_other_kind here entered here' entered'
    rw [kind, if_pos other, if_pos other']
  | true =>
    obtain ⟨-, kind', type'⟩ := numbered_container here' entered'
    have loose : equal left.numbered right.numbered = equal left right :=
      EqualityLaws.equal_alike entered_form entered
        ⟨plain_comparable (numbered_plain plain), plain_comparable (numbered_plain plain')⟩
        ⟨plain_comparable plain, plain_comparable plain'⟩ (numbered_matches plain plain')
    rw [kind, kind', type, type', loose]

/-- Strictly equal values of plain data are of one kind, they have the same positions, and at each
of these stand values of one kind or a truth value and the number that it counts as. Inside
containers the latter is no accident: containers with the same numbered forms are strictly equal
to the same values. -/
theorem strict_at_top_only (left right : Value) (plain : left.PlainData) (plain' : right.PlainData) :
    (strictEqual left right = .ok true →
      left.kind = right.kind ∧
      ∀ path x, left.at? path = some x →
        ∃ y, right.at? path = some y ∧ (x.kind = y.kind ∨ x.CountsAs y ∨ y.CountsAs x)) ∧
    (∀ left' right' : Value, left'.PlainData → right'.PlainData → left.isEntered = true → left'.isEntered = true →
      left.numbered = left'.numbered → right.numbered = right'.numbered →
        strictEqual left right = strictEqual left' right') := by
  constructor
  · intro equal
    obtain ⟨kinds, matched⟩ := strict_equal_matches equal
    refine ⟨kinds, fun path x reached => ?_⟩
    obtain ⟨y, reached', found, plain_x, plain_y⟩ := at_matches plain plain' matched reached
    exact ⟨y, reached', plain_kinds (throughout_here plain_x) (throughout_here plain_y) found⟩
  · intro left' right' plain_left plain_right entered entered' forms forms'
    calc
      strictEqual left right = strictEqual left.numbered right.numbered :=
        (strict_equal_numbered plain plain' entered).symm
      _ = strictEqual left'.numbered right'.numbered := by rw [forms, forms']
      _ = strictEqual left' right' := strict_equal_numbered plain_left plain_right entered'

/-- A list of mappings equals another one that tells a flag as a number, and so does the list in
which all flags are told as numbers. -/
theorem walkthrough_flags_as_numbers :
    let left := Value.list [.mapping .plain [("on", .bool true), ("size", .tuple [.int 2, .text "cm"])]]
    let right := Value.list [.mapping .plain [("size", .tuple [.float (.finite false 2 0), .text "cm"]), ("on", .int 1)]]
    left.at? [.place 0, .key "on"] = some (.bool true) ∧
      (∃ y, right.at? [.place 0, .key "on"] = some y ∧ (Value.bool true).CountsAs y) ∧
      strictEqual left right = strictEqual left.numbered right := by
  intro left right
  have plain : left.PlainData := by simp [left, PlainData, isPlain]
  have plain' : right.PlainData := by simp [right, PlainData, isPlain]
  have equal : strictEqual left right = .ok true := by decide +kernel
  obtain ⟨positions, forms⟩ := strict_at_top_only left right plain plain'
  obtain ⟨y, reached, kinds⟩ := (positions equal).2 [.place 0, .key "on"] (.bool true) rfl
  have there : right.at? [.place 0, .key "on"] = some (.int 1) := rfl
  cases there.symm.trans reached
  have counts : (Value.bool true).CountsAs (.int 1) := ⟨true, rfl, rfl, by simp [numeral?]⟩
  exact ⟨rfl, ⟨_, reached, counts⟩, forms left.numbered right (numbered_plain plain) plain' rfl rfl rfl rfl⟩

/-- Strict equality crosses truth values and numbers inside a list. -/
theorem number_passes_for_truth_within :
    ¬∀ left right : Value, left.PlainData → right.PlainData → strictEqual left right = .ok true →
      ∀ path x y, left.at? path = some x → right.at? path = some y → x.kind = y.kind := by
  intro strict
  have plain : (Value.list [.int 0]).PlainData := by simp [PlainData, isPlain]
  have plain' : (Value.list [.bool false]).PlainData := by simp [PlainData, isPlain]
  have kinds := strict _ _ plain plain' (by decide +kernel) [.place 0] (.int 0) (.bool false) rfl rfl
  cases kinds

end EqualPositions
end RecordSchema
