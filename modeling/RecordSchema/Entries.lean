/-! Ordered entries under distinct keys, kept as a list of pairs. A key that is bound again keeps its place
and takes the new value. -/
namespace RecordSchema.Entries

variable {α : Type}

/-- The entries with a key bound to a value: in its old place if it has one, else at the end. -/
def put (key : String) (value : α) : List (String × α) → List (String × α)
  | [] => [(key, value)]
  | (k, v) :: rest => if k = key then (k, value) :: rest else (k, v) :: put key value rest

/-- The entries that a run of bindings leaves. -/
def ofPairs (pairs : List (String × α)) : List (String × α) :=
  pairs.foldl (fun entries (key, value) => put key value entries) []

/-- Whether a key is bound. -/
def has (key : String) (entries : List (String × α)) : Bool := entries.any fun (k, _) => k == key

/-- The entries without a key. -/
def erase (key : String) (entries : List (String × α)) : List (String × α) :=
  entries.filter fun (k, _) => k != key

end RecordSchema.Entries
