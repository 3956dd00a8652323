import Mathlib.Data.List.Induction
import Mathlib.Data.List.Nodup
import RecordSchema.Entries

/-! What a run of bindings leaves. Each key stands where it was bound first,
and under distinct keys the bindings themselves are left. -/
namespace RecordSchema.Entries

variable {Key α : Type} [DecidableEq Key]

theorem keys_put (key : String) (value : α) (entries : List (String × α)) :
    (put key value entries).map (·.1) =
      if key ∈ entries.map (·.1) then entries.map (·.1) else entries.map (·.1) ++ [key] := by
  induction entries with
  | nil => simp [put]
  | cons entry rest ih =>
    obtain ⟨k, v⟩ := entry
    by_cases same : k = key
    · simp [put, same]
    · have other : key ≠ k := Ne.symm same
      simp only [put, if_neg same, List.map_cons, ih, List.mem_cons, other, false_or]
      split <;> simp

theorem put_new {key : String} {value : α} {entries : List (String × α)}
    (new : key ∉ entries.map (·.1)) : put key value entries = entries ++ [(key, value)] := by
  induction entries with
  | nil => rfl
  | cons entry rest ih =>
    obtain ⟨k, v⟩ := entry
    rw [List.map_cons, List.mem_cons, not_or] at new
    rw [put, if_neg (Ne.symm new.1), ih new.2, List.cons_append]

theorem of_pairs_concat (pairs : List (String × α)) (key : String) (value : α) :
    ofPairs (pairs ++ [(key, value)]) = put key value (ofPairs pairs) := by
  simp [ofPairs, List.foldl_append]

/-- The keys that are left are those that were bound, each where it was first. -/
theorem keys_of_pairs (pairs : List (String × α)) :
    (ofPairs pairs).map (·.1) = (pairs.map (·.1)).eraseDups := by
  induction pairs using List.reverseRecOn with
  | nil => rfl
  | append_singleton pairs pair ih =>
    obtain ⟨key, value⟩ := pair
    rw [of_pairs_concat, keys_put, ih, List.map_append, List.eraseDups_append]
    by_cases bound : key ∈ pairs.map (·.1)
    · simp [List.mem_eraseDups, bound, List.removeAll]
    · simp [List.mem_eraseDups, bound, List.removeAll, List.eraseDups_cons]

/-- Bindings of distinct keys are all left as they are. -/
theorem of_pairs_distinct {pairs : List (String × α)} (distinct : (pairs.map (·.1)).Nodup) :
    ofPairs pairs = pairs := by
  induction pairs using List.reverseRecOn with
  | nil => rfl
  | append_singleton pairs pair ih =>
    obtain ⟨key, value⟩ := pair
    rw [List.map_append, List.nodup_append] at distinct
    rw [of_pairs_concat, ih distinct.1]
    exact put_new fun bound => distinct.2.2 key bound key (by simp) rfl

theorem lookup_eq_none {entries : List (Key × α)} {key : Key} :
    entries.lookup key = none ↔ key ∉ entries.map (·.1) := by
  simp only [List.lookup_eq_none_iff, List.mem_map, not_exists, not_and, bne_iff_ne, ne_eq]
  exact ⟨fun absent entry member same => absent entry member same.symm,
    fun absent entry member same => absent entry member same.symm⟩

/-- Under distinct keys an entry is what looking for its key finds. -/
theorem lookup_of_mem {entries : List (Key × α)} {key : Key} {value : α}
    (distinct : (entries.map (·.1)).Nodup) (member : (key, value) ∈ entries) :
    entries.lookup key = some value := by
  induction entries with
  | nil => cases member
  | cons entry rest ih =>
    obtain ⟨k, v⟩ := entry
    rw [List.map_cons, List.nodup_cons] at distinct
    rcases List.mem_cons.mp member with same | below
    · cases same
      simp
    · have other : key ≠ k := by
        rintro rfl
        exact distinct.1 (List.mem_map.mpr ⟨_, below, rfl⟩)
      rw [List.lookup_cons, beq_false_of_ne other]
      exact ih distinct.2 below

/-- What looking for a key finds is an entry. -/
theorem mem_of_lookup {entries : List (Key × α)} {key : Key} {value : α}
    (found : entries.lookup key = some value) : (key, value) ∈ entries := by
  obtain ⟨before, after, rfl, -⟩ := List.lookup_eq_some_iff.mp found
  simp

theorem lookup_erase_self (key : String) (entries : List (String × α)) : (erase key entries).lookup key = none := by
  rw [lookup_eq_none]
  simp [erase]

theorem lookup_erase_other {key other : String} (different : key ≠ other) (entries : List (String × α)) :
    (erase other entries).lookup key = entries.lookup key := by
  induction entries with
  | nil => rfl
  | cons entry rest ih =>
    obtain ⟨k, v⟩ := entry
    rw [erase, List.filter_cons]
    by_cases dropped : k = other
    · subst dropped
      have skipped : (key == k) = false := beq_false_of_ne different
      simp only [bne_self_eq_false, Bool.false_eq_true, if_false]
      rw [List.lookup_cons, skipped]
      exact ih
    · have kept : (k != other) = true := bne_iff_ne.mpr dropped
      simp only [kept, if_true]
      rw [List.lookup_cons, List.lookup_cons]
      split
      · rfl
      · exact ih

end RecordSchema.Entries
