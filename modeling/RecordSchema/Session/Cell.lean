import RecordSchema.Entries
import RecordSchema.Value

/-! Values that can be changed in place.

A cell is a value in which every list and every mapping that can be changed carries a label. Cells with one
label are one object: a change to one of them is a change to all, wherever they stand. -/
namespace RecordSchema.Session

/-- A value with labels. -/
inductive Cell where
  /-- A value without any part that can be changed. -/
  | atom (v : Value)
  | list (label : Nat) (items : List Cell)
  | mapping (label : Nat) (kind : MappingKind) (entries : List (String × Cell))
  /-- A read-only mapping. -/
  | view (entries : List (String × Cell))
  | tuple (items : List Cell)
  | named (type : TupleType) (items : List Cell)
  | rule (kind : RuleKind) (part : Cell)

instance : Inhabited Cell := ⟨.atom .null⟩

namespace Cell

mutual
/-- The value that a cell holds now. -/
def value : Cell → Value
  | .atom v => v
  | .list _ items => .list (values items)
  | .mapping _ kind entries => .mapping kind (entryValues entries)
  | .view entries => .mapping .readOnly (entryValues entries)
  | .tuple items => .tuple (values items)
  | .named type items => .named type (values items)
  | .rule kind part => .rule kind part.value
termination_by structural cell => cell

/-- The values that cells hold now. -/
def values : List Cell → List Value
  | [] => []
  | cell :: cells => cell.value :: values cells
termination_by structural cells => cells

/-- The values that the cells under keys hold now. -/
def entryValues : List (String × Cell) → List (String × Value)
  | [] => []
  | (key, cell) :: rest => (key, cell.value) :: entryValues rest
termination_by structural entries => entries
end

mutual
/-- A cell for a value, with labels from `next` on, and the next label after them. -/
def ofValue (next : Nat) : Value → Cell × Nat
  | .list items =>
    let (cells, after) := ofValues (next + 1) items
    (.list next cells, after)
  | .mapping .readOnly entries =>
    let (cells, after) := ofEntries next entries
    (.view cells, after)
  | .mapping kind entries =>
    let (cells, after) := ofEntries (next + 1) entries
    (.mapping next kind cells, after)
  | .tuple items =>
    let (cells, after) := ofValues next items
    (.tuple cells, after)
  | .named type items =>
    let (cells, after) := ofValues next items
    (.named type cells, after)
  | .rule kind part =>
    let (cell, after) := ofValue next part
    (.rule kind cell, after)
  | v => (.atom v, next)
termination_by structural v => v

/-- Cells for values, with labels from `next` on, and the next label after them. -/
def ofValues (next : Nat) : List Value → List Cell × Nat
  | [] => ([], next)
  | v :: vs =>
    let (cell, between) := ofValue next v
    let (cells, after) := ofValues between vs
    (cell :: cells, after)
termination_by structural vs => vs

/-- Cells for the values under keys, with labels from `next` on, and the next label after them. -/
def ofEntries (next : Nat) : List (String × Value) → List (String × Cell) × Nat
  | [] => ([], next)
  | (key, v) :: rest =>
    let (cell, between) := ofValue next v
    let (cells, after) := ofEntries between rest
    ((key, cell) :: cells, after)
termination_by structural entries => entries
end

mutual
/-- The cell after the object with a label has become another. -/
def replace (label : Nat) (new : Cell) : Cell → Cell
  | .atom v => .atom v
  | .list l items => if l = label then new else .list l (replaceAll label new items)
  | .mapping l kind entries =>
    if l = label then new else .mapping l kind (replaceEntries label new entries)
  | .view entries => .view (replaceEntries label new entries)
  | .tuple items => .tuple (replaceAll label new items)
  | .named type items => .named type (replaceAll label new items)
  | .rule kind part => .rule kind (replace label new part)
termination_by structural cell => cell

/-- Cells after the object with a label has become another. -/
def replaceAll (label : Nat) (new : Cell) : List Cell → List Cell
  | [] => []
  | cell :: cells => replace label new cell :: replaceAll label new cells
termination_by structural cells => cells

/-- The cells under keys after the object with a label has become another. -/
def replaceEntries (label : Nat) (new : Cell) : List (String × Cell) → List (String × Cell)
  | [] => []
  | (key, cell) :: rest => (key, replace label new cell) :: replaceEntries label new rest
termination_by structural entries => entries
end

end Cell

/-! ## Places in a cell -/

/-- Why a place cannot be reached or changed. -/
inductive PlaceError where
  | missingKey
  | outOfRange
  /-- The object has no such places, or they cannot be changed. -/
  | unsupported
  /-- Something was to be appended to what is no list. -/
  | notAList
  deriving DecidableEq, Repr

/-- One step on the way to a place. An index below zero counts from the end. -/
inductive Turn where
  | key (key : String)
  | index (index : Int)
  deriving DecidableEq, Repr

/-- The place of an index among so many. -/
def position? (count : Nat) (index : Int) : Option Nat :=
  let place := if index < 0 then index + count else index
  if 0 ≤ place && place < count then some place.toNat else none

/-- The item with an index. -/
def itemAt (items : List Cell) (index : Int) : Except PlaceError Cell :=
  match (position? items.length index).bind (items[·]?) with
  | some item => .ok item
  | none => .error .outOfRange

/-- The cell under a key. -/
def cellUnder (entries : List (String × Cell)) (key : String) : Except PlaceError Cell :=
  match entries.lookup key with
  | some cell => .ok cell
  | none => .error .missingKey

namespace Cell

/-- What a turn leads to in a value without any part that can be changed. -/
def turnAtom (v : Value) (turn : Turn) : Except PlaceError Cell :=
  match v, turn with
  | .text _, .index index | .derivedText _, .index index | .octets _, .index index
  | .member _ .text _ _, .index index => itemAt ((v.items?.getD []).map .atom) index
  | .enumClass owner base members, .key key => match members.lookup key with
    | some value => .ok (.atom (.member owner base key value))
    | none => .error .missingKey
  | .enumClass _ _ _, .index _ => .error .missingKey
  | _, _ => .error .unsupported

/-- What a turn leads to. -/
def turn (cell : Cell) (turn : Turn) : Except PlaceError Cell :=
  match cell, turn with
  | .mapping _ _ entries, .key key | .view entries, .key key => cellUnder entries key
  | .mapping _ _ _, .index _ | .view _, .index _ => .error .missingKey
  | .list _ items, .index index | .tuple items, .index index | .named _ items, .index index => itemAt items index
  | .atom v, turn => turnAtom v turn
  | _, _ => .error .unsupported

/-- What turns lead to. -/
def follow (cell : Cell) (turns : List Turn) : Except PlaceError Cell := turns.foldlM Cell.turn cell

/-- A change of one object: its label and what it becomes. -/
structure Change where
  label : Nat
  new : Cell

/-- Binds a place of an object to a cell. A new key comes last. -/
def assign (new : Cell) : Cell → Turn → Except PlaceError Change
  | .mapping label kind entries, .key key => .ok ⟨label, .mapping label kind (Entries.put key new entries)⟩
  | .list label items, .index index => match position? items.length index with
    | some place => .ok ⟨label, .list label (items.set place new)⟩
    | none => .error .outOfRange
  | _, _ => .error .unsupported

/-- Removes a place of an object. -/
def remove : Cell → Turn → Except PlaceError Change
  | .mapping label kind entries, .key key =>
    if Entries.has key entries then .ok ⟨label, .mapping label kind (Entries.erase key entries)⟩
    else .error .missingKey
  | .mapping _ _ _, .index _ => .error .missingKey
  | .list label items, .index index => match position? items.length index with
    | some place => .ok ⟨label, .list label (items.eraseIdx place)⟩
    | none => .error .outOfRange
  | _, _ => .error .unsupported

/-- Adds a cell at the end of a list. -/
def append (new : Cell) : Cell → Except PlaceError Change
  | .list label items => .ok ⟨label, .list label (items ++ [new])⟩
  | .atom (.callable (.builtin .toList)) => .error .unsupported
  | _ => .error .notAList

/-- Changes the place that turns lead to. -/
def changeAt (change : Cell → Turn → Except PlaceError Change) (cell : Cell) (turns : List Turn) :
    Except PlaceError Change :=
  match turns.getLast? with
  | none => .error .outOfRange
  | some last => do change (← cell.follow turns.dropLast) last

end Cell
end RecordSchema.Session
