import RecordSchema.Files.Access
import RecordSchema.Files.Path
import RecordSchema.Text.Utf8

/-! A tree of files held in memory. A path is walked name by name from the working directory, which is the
top of the tree; what lies above it is not known to hold anything. -/
namespace RecordSchema.Files

/-- A tree: entries by the names that lead to them. The directories on the way to an entry exist with it. -/
abbrev Tree := List (List (List Char) × Entry)

/-- The greatest number of octets in a name. -/
def nameLimit : Nat := 255

/-- The least number of octets that is too much for a path. -/
def pathLimit : Nat := 4096

/-- How many octets encode a text. -/
def octetCount (text : List Char) : Nat := text.foldr (fun c count => Text.utf8Size c + count) 0

namespace Tree

/-- The place above the working directory. -/
def outside (place : List (List Char)) : Bool := place.all (· == above)

/-- What stands at a place. -/
def entry? (tree : Tree) (place : List (List Char)) : Option Entry :=
  if outside place then some .directory
  else match tree.lookup place with
    | some entry => some entry
    | none => if tree.any fun (names, _) => place.isPrefixOf names then some .directory else none

/-- The place above a place. -/
def parent (place : List (List Char)) : List (List Char) :=
  if outside place then place ++ [above] else place.dropLast

/-- What the names of a path lead to from a place. -/
def walk (tree : Tree) (place : List (List Char)) : List (List Char) → Except AccessError Entry
  | [] => match tree.entry? place with
    | some entry => .ok entry
    | none => .error .notFound
  | name :: names => match tree.entry? place with
    | none => .error .notFound
    | some (.file _) => .error .notADirectory
    | some .directory =>
      if name.isEmpty || name == here then walk tree place names
      else if name == above then walk tree (parent place) names
      else if nameLimit < octetCount name then .error .nameTooLong
      else walk tree (place ++ [name]) names

/-- What a path leads to. No absolute path leads anywhere but to the root. -/
def find (tree : Tree) (path : String) : Except AccessError Entry :=
  let text := path.toList
  if text.contains '\x00' then .error .embeddedNul
  else if text.isEmpty then .error .notFound
  else if pathLimit ≤ octetCount text then .error .nameTooLong
  else if text.head? = some '/' then
    walk [] [] (splitPath text)
  else tree.walk [] (splitPath text)

/-- The tree as a disk. -/
def disk (tree : Tree) : Disk Id := ⟨fun path => tree.find path⟩

end Tree
end RecordSchema.Files
