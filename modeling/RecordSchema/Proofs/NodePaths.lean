import Mathlib.Data.List.Nodup
import RecordSchema.Proofs.SchemaWalk

/-! The paths of all nodes of a schema: of its leaves and of its nested keys. A
path is put together from the keys that lead to the node, and it tells them
apart again as long as no key is empty or shares a character with the
separator; so the paths of different nodes are then different. -/
namespace RecordSchema

mutual
/-- Whether no mapping at or below a rule has a key twice. -/
def Rule.hasDistinctKeys : Rule → Bool
  | .nested fields => Schema.hasDistinctKeys fields
  | _ => true
termination_by structural rule => rule

/-- Whether neither the fields nor any mapping below them have a key twice. -/
def Schema.hasDistinctKeys : List (String × Rule) → Bool
  | [] => true
  | (key, rule) :: rest => !Entries.has key rest && rule.hasDistinctKeys && Schema.hasDistinctKeys rest
termination_by structural fields => fields
end

mutual
/-- Whether all keys below a rule are of a kind. -/
def Rule.allKeys (test : String → Bool) : Rule → Bool
  | .nested fields => Schema.allKeys test fields
  | _ => true
termination_by structural rule => rule

/-- Whether the keys of the fields and all keys below them are of a kind. -/
def Schema.allKeys (test : String → Bool) : List (String × Rule) → Bool
  | [] => true
  | (key, rule) :: rest => test key && rule.allKeys test && Schema.allKeys test rest
termination_by structural fields => fields
end

mutual
/-- The keys that lead from a rule to itself and to every node below it. -/
def Rule.nodeKeys : Rule → List (List String)
  | .nested fields => [] :: Schema.nodeKeys fields
  | _ => [[]]
termination_by structural rule => rule

/-- The keys that lead to the nodes of a schema, which are its fields and what
is below them. -/
def Schema.nodeKeys : List (String × Rule) → List (List String)
  | [] => []
  | (key, rule) :: rest => rule.nodeKeys.map (key :: ·) ++ Schema.nodeKeys rest
termination_by structural fields => fields
end

mutual
/-- The paths of a rule and of the nodes below it. -/
def Rule.nodePaths (separator path : String) : Rule → List String
  | .nested fields => path :: Schema.nodePathsBelow separator path fields
  | _ => [path]
termination_by structural rule => rule

/-- The paths of the nodes of a schema below a path. -/
def Schema.nodePathsBelow (separator path : String) : List (String × Rule) → List String
  | [] => []
  | (key, rule) :: rest =>
    rule.nodePaths separator (extendPath separator path key) ++ Schema.nodePathsBelow separator path rest
termination_by structural fields => fields
end

/-- The path that keys lead to from a path. -/
def joinPath (separator path : String) (keys : List String) : String :=
  keys.foldl (extendPath separator) path

/-- Whether a key can be told apart in paths: it has characters, none of which
is one of the separator. -/
def isPlainKey (separator key : String) : Bool :=
  !key.isEmpty && separator.toList.all fun c => !key.toList.contains c

namespace NodePaths

variable {separator path key : String} {rule : Rule} {fields : Schema}

theorem node_keys_leaf (leaf : rule.kind? ≠ some .nested) : rule.nodeKeys = [[]] := by
  cases rule with
  | nested fields => simp [Rule.kind?] at leaf
  | _ => rfl

theorem node_paths_leaf (leaf : rule.kind? ≠ some .nested) : rule.nodePaths separator path = [path] := by
  cases rule with
  | nested fields => simp [Rule.kind?] at leaf
  | _ => rfl

theorem join_path_cons (keys : List String) :
    joinPath separator path (key :: keys) = joinPath separator (extendPath separator path key) keys := rfl

/-- The path of a node is put together from the keys that lead to it. -/
theorem node_paths_joined (fields : Schema) :
    Schema.nodePathsBelow separator path fields = (Schema.nodeKeys fields).map (joinPath separator path) := by
  induction fields using Schema.induction generalizing path with
  | nil => rfl
  | leaf key rule rest leaf ih =>
    simp [Schema.nodePathsBelow, Schema.nodeKeys, node_paths_leaf leaf, node_keys_leaf leaf, ih, joinPath]
  | broken key fault rest ih =>
    simp [Schema.nodePathsBelow, Schema.nodeKeys, Rule.nodePaths, Rule.nodeKeys, ih, joinPath]
  | nested key inner rest inside below =>
    simp [Schema.nodePathsBelow, Schema.nodeKeys, Rule.nodePaths, Rule.nodeKeys, inside, below,
      joinPath, Function.comp_def]

/-- Every node of a schema is led to by one of its keys at least. -/
theorem node_keys_head {keys : List String} (fields : Schema) (member : keys ∈ Schema.nodeKeys fields) :
    ∃ key below, keys = key :: below ∧ key ∈ fields.map (·.1) := by
  induction fields with
  | nil => cases member
  | cons field rest ih =>
    obtain ⟨key, rule⟩ := field
    rw [Schema.nodeKeys, List.mem_append, List.mem_map] at member
    rcases member with ⟨below, -, rfl⟩ | member
    · exact ⟨key, below, rfl, by simp⟩
    · obtain ⟨name, below, rfl, named⟩ := ih member
      exact ⟨name, below, rfl, by simp [named]⟩

theorem has_eq_false {α : Type} {entries : List (String × α)} :
    Entries.has key entries = false ↔ key ∉ entries.map (·.1) := by
  simp only [Entries.has, List.any_eq_false, beq_iff_eq, List.mem_map, not_exists, not_and]

theorem distinct_keys_nodup (fields : Schema) (distinct : Schema.hasDistinctKeys fields = true) :
    (fields.map (·.1)).Nodup := by
  induction fields with
  | nil => exact .nil
  | cons field rest ih =>
    obtain ⟨key, rule⟩ := field
    simp only [Schema.hasDistinctKeys, Bool.and_eq_true, Bool.not_eq_true'] at distinct
    exact List.nodup_cons.mpr ⟨has_eq_false.mp distinct.1.1, ih distinct.2⟩

/-- Under distinct keys no two nodes are led to by the same keys. -/
theorem node_keys_nodup (fields : Schema) (distinct : Schema.hasDistinctKeys fields = true) :
    (Schema.nodeKeys fields).Nodup := by
  -- The nodes below a field all start with its key, and those of the others do not.
  have field {key : String} {rule : Rule} {rest : Schema} (own : rule.nodeKeys.Nodup)
      (new : Entries.has key rest = false) (below : (Schema.nodeKeys rest).Nodup) :
      (Schema.nodeKeys ((key, rule) :: rest)).Nodup := by
    rw [Schema.nodeKeys, List.nodup_append]
    refine ⟨own.map (List.cons_injective), below, ?_⟩
    rintro _ first keys member rfl
    obtain ⟨below, -, rfl⟩ := List.mem_map.mp first
    obtain ⟨name, _, same, named⟩ := node_keys_head rest member
    cases same
    exact has_eq_false.mp new named
  induction fields using Schema.induction with
  | nil => exact .nil
  | leaf key rule rest leaf ih =>
    simp only [Schema.hasDistinctKeys, Bool.and_eq_true, Bool.not_eq_true'] at distinct
    exact field (by simp [node_keys_leaf leaf]) distinct.1.1 (ih distinct.2)
  | broken key fault rest ih =>
    simp only [Schema.hasDistinctKeys, Bool.and_eq_true, Bool.not_eq_true'] at distinct
    exact field (by simp [Rule.nodeKeys]) distinct.1.1 (ih distinct.2)
  | nested key inner rest inside below =>
    simp only [Schema.hasDistinctKeys, Bool.and_eq_true, Bool.not_eq_true'] at distinct
    refine field ?_ distinct.1.1 (below distinct.2)
    rw [Rule.nodeKeys, List.nodup_cons]
    refine ⟨fun member => ?_, inside distinct.1.2⟩
    obtain ⟨_, _, same, -⟩ := node_keys_head inner member
    cases same

theorem node_keys_kind {test : String → Bool} (fields : Schema) (all : Schema.allKeys test fields = true) :
    ∀ keys ∈ Schema.nodeKeys fields, ∀ key ∈ keys, test key = true := by
  induction fields using Schema.induction with
  | nil => simp [Schema.nodeKeys]
  | leaf key rule rest leaf ih =>
    simp only [Schema.allKeys, Bool.and_eq_true] at all
    simpa [Schema.nodeKeys, node_keys_leaf leaf, all.1.1] using ih all.2
  | broken key fault rest ih =>
    simp only [Schema.allKeys, Bool.and_eq_true] at all
    simpa [Schema.nodeKeys, Rule.nodeKeys, all.1.1] using ih all.2
  | nested key inner rest inside below =>
    simp only [Schema.allKeys, Rule.allKeys, Bool.and_eq_true] at all
    intro keys member name named
    simp only [Schema.nodeKeys, Rule.nodeKeys, List.map_cons, List.cons_append, List.mem_cons,
      List.mem_append, List.mem_map] at member
    rcases member with rfl | ⟨deeper, member, rfl⟩ | member
    · cases List.mem_singleton.mp named
      exact all.1.1
    · rcases List.mem_cons.mp named with rfl | named
      · exact all.1.1
      · exact inside all.1.2 deeper member name named
    · exact below all.2 keys member name named

/-! ## Reading paths back -/

/-- Where two words end is told by the first character that is in neither. -/
private theorem first_word_unique {c : Char} {word other rest tail : List Char} (free : c ∉ word)
    (free' : c ∉ other) (same : word ++ c :: rest = other ++ c :: tail) : word = other ∧ rest = tail := by
  induction word generalizing other with
  | nil =>
    cases other with
    | nil => simpa using same
    | cons d other =>
      simp only [List.nil_append, List.cons_append, List.cons.injEq] at same
      simp [same.1] at free'
  | cons a word ih =>
    cases other with
    | nil =>
      simp only [List.nil_append, List.cons_append, List.cons.injEq] at same
      simp [same.1] at free
    | cons d other =>
      simp only [List.cons_append, List.cons.injEq] at same
      obtain ⟨rfl, rfl⟩ := ih (fun member => free (List.mem_cons_of_mem _ member))
        (fun member => free' (List.mem_cons_of_mem _ member)) same.2
      exact ⟨by rw [same.1], rfl⟩

/-- Words with a separator between them can be read back when no word has the
first character of the separator. -/
private theorem words_unique {c : Char} {between : List Char} {words others : List (List Char)}
    {word other : List Char} (free : ∀ w ∈ word :: words, c ∉ w) (free' : ∀ w ∈ other :: others, c ∉ w)
    (same : word ++ words.flatMap (fun w => c :: between ++ w) =
      other ++ others.flatMap (fun w => c :: between ++ w)) : word :: words = other :: others := by
  rw [List.forall_mem_cons] at free free'
  induction words generalizing word other others with
  | nil =>
    cases others with
    | nil => simpa using same
    | cons next others =>
      have inside : c ∈ word := by
        simp only [List.flatMap_nil, List.append_nil, List.flatMap_cons] at same
        simp [same]
      exact absurd inside free.1
  | cons next words ih =>
    cases others with
    | nil =>
      have inside : c ∈ other := by
        simp only [List.flatMap_nil, List.append_nil, List.flatMap_cons] at same
        simp [← same]
      exact absurd inside free'.1
    | cons later others =>
      simp only [List.flatMap_cons, List.cons_append, List.append_assoc] at same
      obtain ⟨rfl, rest⟩ := first_word_unique free.1 free'.1 same
      rw [List.append_cancel_left_eq] at rest
      rw [ih (List.forall_mem_cons.mp free.2) (List.forall_mem_cons.mp free'.2) rest]

theorem join_path_chars {keys : List String} (below : path ≠ "") :
    (joinPath separator path keys).toList =
      path.toList ++ keys.flatMap fun key => separator.toList ++ key.toList := by
  induction keys generalizing path with
  | nil => simp [joinPath]
  | cons key keys ih =>
    have next : extendPath separator path key = path ++ separator ++ key := by
      simp [extendPath, below]
    rw [join_path_cons, next, ih (by simp [below])]
    simp

/-- Plain keys can be read back from the path that they lead to. -/
theorem join_path_injective {keys others : List String} (mark : separator ≠ "")
    (plain : ∀ key ∈ keys, isPlainKey separator key = true) (led : keys ≠ [])
    (plain' : ∀ key ∈ others, isPlainKey separator key = true) (led' : others ≠ [])
    (same : joinPath separator "" keys = joinPath separator "" others) : keys = others := by
  obtain ⟨first, keys, rfl⟩ := List.exists_cons_of_ne_nil led
  obtain ⟨other, others, rfl⟩ := List.exists_cons_of_ne_nil led'
  obtain ⟨c, between, chars⟩ : ∃ c between, separator.toList = c :: between :=
    List.exists_cons_of_ne_nil (by simpa using mark)
  simp only [isPlainKey, chars, List.all_cons, Bool.and_eq_true, Bool.not_eq_true', String.isEmpty_eq_false_iff,
    List.contains_eq_mem, decide_eq_false_iff_not] at plain plain'
  have start (key : String) : extendPath separator "" key = key := by simp [extendPath]
  rw [join_path_cons, join_path_cons, start, start] at same
  have words := congrArg String.toList same
  rw [join_path_chars (plain first (by simp)).1, join_path_chars (plain' other (by simp)).1, chars] at words
  have free (names : List String) (without : ∀ key ∈ names, c ∉ key.toList) :
      ∀ word ∈ names.map String.toList, c ∉ word := List.forall_mem_map.mpr without
  have read := words_unique (free _ fun key member => (plain key member).2.1)
    (free _ fun key member => (plain' key member).2.1) (by simpa only [List.flatMap_map] using words)
  exact List.map_injective_iff.mpr (fun _ _ => String.toList_injective) read

/-- So different nodes of a schema with distinct plain keys have different paths. -/
theorem node_paths_nodup (mark : separator ≠ "") (distinct : Schema.hasDistinctKeys fields = true)
    (plain : Schema.allKeys (isPlainKey separator) fields = true) :
    (Schema.nodePathsBelow separator "" fields).Nodup := by
  rw [node_paths_joined]
  have kinds := node_keys_kind fields plain
  have led {keys : List String} (member : keys ∈ Schema.nodeKeys fields) : keys ≠ [] := by
    obtain ⟨_, _, rfl, -⟩ := node_keys_head fields member
    simp
  exact (node_keys_nodup fields distinct).map_on fun keys member others member' same =>
    join_path_injective mark (kinds keys member) (led member) (kinds others member') (led member') same

end NodePaths
end RecordSchema
