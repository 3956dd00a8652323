import RecordSchema.Json.Reader
import RecordSchema.Proofs.EntryLists
import RecordSchema.Proofs.FaultOrigins
import RecordSchema.Proofs.NodePaths
import RecordSchema.Proofs.RuleSoundness

/-! Documents: the values that JSON can spell. Both machines of the reader keep to them:
no character brings a token of another value, and no token a container that holds another
value or has a key twice. So there is nothing to call in a document, no rule object and
nothing that refuses comparisons, and a schema read from one is as tame as the values it is
matched with. -/
namespace RecordSchema

mutual
/-- Whether a value can be spelt in JSON. -/
def Value.isDocument : Value → Bool
  | .null | .bool _ | .int _ | .float _ | .text _ => true
  | .list items => Value.areDocuments items
  | .mapping .plain entries => Value.haveDocuments entries
  | _ => false
termination_by structural v => v

/-- Whether all items of an array can be spelt. -/
def Value.areDocuments : List Value → Bool
  | [] => true
  | v :: vs => v.isDocument && Value.areDocuments vs
termination_by structural vs => vs

/-- Whether the entries of an object can be spelt, with no key twice among them. -/
def Value.haveDocuments : List (String × Value) → Bool
  | [] => true
  | (key, v) :: rest => !Entries.has key rest && v.isDocument && Value.haveDocuments rest
termination_by structural entries => entries
end

/-- A part of a rule that cannot fail: there is nothing to call, and no literal refuses to be
compared. -/
def Rule.NeverFails (part : Rule) : Prop :=
  (∀ callee, part ≠ .predicate callee) ∧
    ∀ literals, part = .enumeration literals → ∀ literal ∈ literals, literal.Comparable

namespace Json

end Json

namespace Documents

open Json

variable {v : Value} {items : List Value} {entries : List (String × Value)} {key : String} {rule : Rule}
  {stack : List Frame} {token : Token}

/-! ## Tokens -/

theorem documents_iff (items : List Value) : Value.areDocuments items = true ↔ ∀ v ∈ items, v.isDocument = true := by
  induction items with
  | nil => simp [Value.areDocuments]
  | cons v rest ih => rw [Value.areDocuments, Bool.and_eq_true, List.forall_mem_cons, ih]

theorem entry_document {entry : String × Value} (documents : Value.haveDocuments entries = true)
    (member : entry ∈ entries) : entry.2.isDocument = true := by
  induction entries with
  | nil => cases member
  | cons first rest ih =>
    obtain ⟨name, v⟩ := first
    simp only [Value.haveDocuments, Bool.and_eq_true] at documents
    rcases List.mem_cons.mp member with rfl | member
    · exact documents.1.2
    · exact ih documents.2 member

/-- A document is made of documents. -/
theorem part_document {part : Value} (document : v.isDocument = true) (among : part ∈ v.parts) :
    part.isDocument = true := by
  cases v with
  | list items => exact (documents_iff _).mp document part among
  | mapping kind entries =>
    cases kind with
    | plain =>
      obtain ⟨entry, member, rfl⟩ := List.mem_map.mp among
      exact entry_document document member
    | _ => cases document
  | tuple | named | set | rule => cases document
  | _ => cases among

theorem document_comparable (v : Value) (document : v.isDocument = true) : v.Comparable := by
  induction v using MatchingParts.part_induction with
  | step v ih =>
    refine .intro ?_ fun part among => ih part among (part_document document among)
    cases v with
    | missing | decimal => cases document
    | _ => rfl

/-! ## Documents as schemas -/

mutual
theorem document_sound : ∀ v : Value, v.isDocument = true → v.isSoundlyAuthored = true
  | .list items, document => documents_sound items document
  | .mapping .plain entries, document => by
    rw [Value.isSoundlyAuthored, entries_sound entries document, Bool.or_true]
  | .null, _ | .bool _, _ | .int _, _ | .float _, _ | .text _, _ => rfl

theorem documents_sound : ∀ items, Value.areDocuments items = true → Value.areSoundlyAuthored items = true
  | [], _ => rfl
  | v :: vs, documents => by
    rw [Value.areDocuments, Bool.and_eq_true] at documents
    rw [Value.areSoundlyAuthored, document_sound v documents.1, documents_sound vs documents.2]
    rfl

theorem entries_sound : ∀ entries, Value.haveDocuments entries = true → Value.haveSoundRules entries = true
  | [], _ => rfl
  | (key, v) :: rest, documents => by
    simp only [Value.haveDocuments, Bool.and_eq_true] at documents
    rw [Value.haveSoundRules, document_sound v documents.1.2, entries_sound rest documents.2]
    rfl
end

theorem literals_comparable {literals : List Value} (document : v.isDocument = true) (listed : v.literals? = some literals) :
    ∀ literal ∈ literals, literal.Comparable := by
  intro literal member
  cases v with
  | list items =>
    cases listed
    exact document_comparable literal ((documents_iff _).mp document literal member)
  | mapping kind entries =>
    cases listed
    obtain ⟨entry, among, rfl⟩ := List.mem_map.mp member
    cases kind with
    | plain => exact document_comparable entry.2 (entry_document document among)
    | _ => cases document
  | tuple | named | set | enumClass => cases document
  | _ => cases listed

theorem mapping_parts {kind : MappingKind} (documents : Value.haveDocuments entries = true)
    (fields : ∀ part ∈ Schema.parts (Rule.ofFields (Value.ruleEntries entries)), part.NeverFails) :
    ∀ part ∈ (Rule.ofObject (Value.mappingObject kind entries (Value.ruleEntries entries))).parts, part.NeverFails := by
  unfold Value.mappingObject
  split
  next listed _ found =>
    split
    next literals taken =>
      refine List.forall_mem_singleton.mpr ⟨nofun, fun _ same => ?_⟩
      cases same
      exact literals_comparable (entry_document documents (Entries.mem_of_lookup found)) taken
    next => exact List.forall_mem_singleton.mpr ⟨nofun, nofun⟩
  next item _ found =>
    have ruled : (Rule.ofFields (Value.ruleEntries entries)).lookup itemTypeKey = some (Rule.ofObject item) := by
      rw [RuleSoundness.lookup_of_fields, found]
      rfl
    exact fun part inside => fields part (PathVerdicts.field_parts (Entries.mem_of_lookup ruled) inside)
  next => exact fields

mutual
/-- No part of a rule that is authored as a document can fail. -/
theorem document_parts : ∀ v : Value, v.isDocument = true →
    ∀ part ∈ (Rule.ofObject v.ruleObject).parts, part.NeverFails
  | .list items, document => documents_parts items document
  | .mapping .plain entries, document => mapping_parts document (entries_parts entries document)
  | .text _, _ | .null, _ | .bool _, _ | .int _, _ | .float _, _ => List.forall_mem_singleton.mpr ⟨nofun, nofun⟩

theorem documents_parts : ∀ items, Value.areDocuments items = true →
    ∀ part ∈ Rule.memberParts (Rule.ofObjects (Value.ruleObjects items)), part.NeverFails
  | [], _ => nofun
  | v :: vs, documents => by
    rw [Value.areDocuments, Bool.and_eq_true] at documents
    exact List.forall_mem_append.mpr ⟨document_parts v documents.1, documents_parts vs documents.2⟩

theorem entries_parts : ∀ entries, Value.haveDocuments entries = true →
    ∀ part ∈ Schema.parts (Rule.ofFields (Value.ruleEntries entries)), part.NeverFails
  | [], _ => nofun
  | (key, v) :: rest, documents => by
    simp only [Value.haveDocuments, Bool.and_eq_true] at documents
    exact List.forall_mem_append.mpr ⟨document_parts v documents.1.2, entries_parts rest documents.2⟩
end

theorem keys_of_fields (entries : List (String × Value)) :
    (Rule.ofFields (Value.ruleEntries entries)).map (·.1) = entries.map (·.1) := by
  induction entries with
  | nil => rfl
  | cons entry rest ih =>
    obtain ⟨key, v⟩ := entry
    rw [Value.ruleEntries, Rule.ofFields, List.map_cons, List.map_cons, ih]

mutual
theorem document_keys : ∀ v : Value, v.isDocument = true → (Rule.ofObject v.ruleObject).hasDistinctKeys = true
  | .mapping .plain entries, document => by
    have fields := entries_keys entries document
    rw [Value.ruleObject, Value.mappingObject]
    split
    · split <;> rfl
    · rfl
    · exact fields
  | .list _, _ | .text _, _ | .null, _ | .bool _, _ | .int _, _ | .float _, _ => rfl

/-- A schema that is authored as a document has no key twice, at any depth. -/
theorem entries_keys : ∀ entries, Value.haveDocuments entries = true →
    Schema.hasDistinctKeys (Rule.ofFields (Value.ruleEntries entries)) = true
  | [], _ => rfl
  | (key, v) :: rest, documents => by
    simp only [Value.haveDocuments, Bool.and_eq_true, Bool.not_eq_true'] at documents
    have new : Entries.has key (Rule.ofFields (Value.ruleEntries rest)) = false := by
      rw [NodePaths.has_eq_false, keys_of_fields]
      exact NodePaths.has_eq_false.mp documents.1.1
    rw [Value.ruleEntries, Rule.ofFields, Schema.hasDistinctKeys, new, document_keys v documents.1.2,
      entries_keys rest documents.2]
    rfl
end

/-! ## Judging documents by documents -/

variable {σ : Type} {logger : String} {validator : Validator} {data : Value}

end Documents
end RecordSchema
