/-! Paths of files: the names of directories and at last of a file, with slashes between them. -/
namespace RecordSchema.Files

/-- The stretches of a text between the slashes in it; there is always one more than there are slashes. -/
def splitPath : List Char → List (List Char)
  | [] => [[]]
  | c :: rest =>
    if c = '/' then [] :: splitPath rest
    else match splitPath rest with
      | [] => [[c]]
      | part :: parts => (c :: part) :: parts

/-- The name of the directory itself. -/
def here : List Char := ['.']

/-- The name of the directory above. -/
def above : List Char := ['.', '.']

/-- The slashes that make a path absolute: one, or exactly two if it starts with exactly two. -/
def rootMark : List Char → List Char
  | '/' :: '/' :: '/' :: _ => ['/']
  | '/' :: '/' :: _ => ['/', '/']
  | '/' :: _ => ['/']
  | _ => []

/-- The names in a path. Empty ones and those of the directory itself lead nowhere and are left out. -/
def pathNames (path : List Char) : List (List Char) :=
  (splitPath path).filter fun name => !(name.isEmpty || name == here)

/-- A path with single slashes between its names. Without any name it is the directory itself. -/
def normalPath (path : String) : String :=
  let text := rootMark path.toList ++ List.intercalate ['/'] (pathNames path.toList)
  String.ofList (if text.isEmpty then here else text)

/-- The extension of a name: what its last dot and the characters after it are. A dot that is the first or
the last character begins none. -/
def nameExtension (name : List Char) : List Char :=
  let tail := name.reverse.takeWhile (· ≠ '.')
  if tail.isEmpty || name.length ≤ tail.length + 1 then [] else '.' :: tail.reverse

/-- The extension of the last name in a path. -/
def pathExtension (path : String) : List Char :=
  nameExtension ((pathNames path.toList).getLast?.getD [])

end RecordSchema.Files
