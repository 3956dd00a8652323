import RecordSchema.Text.Quoted

/-! Access to files. What a path leads to is asked of a disk, whose answers may be effects of any kind; the
rest of the library only sees the answers. -/
namespace RecordSchema.Files

/-- Why nothing can be read at a path. -/
inductive AccessError where
  | notFound
  /-- A name before the last one is that of a file. -/
  | notADirectory
  /-- What was to be read is a directory. -/
  | isADirectory
  /-- A name or the whole path is longer than a file system allows. -/
  | nameTooLong
  /-- The path holds the character that ends every path. -/
  | embeddedNul
  /-- The system refuses access for another reason of its own, such as a missing permission. -/
  | refused (number : Nat) (words : String)
  deriving DecidableEq, Repr

/-- What a path leads to. -/
inductive Entry where
  | directory
  | file (octets : List UInt8)

/-- A complaint of the operating system by number, words and path. -/
def systemMessage (number : Nat) (words path : String) : String :=
  s!"[Errno {number}] {words}: {Text.quoted path}"

/-- The text of an error at a path. -/
def AccessError.message (path : String) : AccessError → String
  | .notFound => systemMessage 2 "No such file or directory" path
  | .notADirectory => systemMessage 20 "Not a directory" path
  | .isADirectory => systemMessage 21 "Is a directory" path
  | .nameTooLong => systemMessage 36 "File name too long" path
  | .embeddedNul => "embedded null byte"
  | .refused number words => systemMessage number words path

/-- The numbers of refusals that count as paths to nowhere: a bad descriptor, and links without end. -/
def toleratedNumbers : List Nat := [9, 40]

/-- Whether an error ends the search for a file. That a path leads nowhere is an answer; that it is too long or
refused is not. -/
def AccessError.stopsProbe : AccessError → Bool
  | .nameTooLong => true
  | .refused number _ => !toleratedNumbers.contains number
  | .notFound | .notADirectory | .isADirectory | .embeddedNul => false

/-- A disk. -/
structure Disk (m : Type → Type) where
  /-- What a path leads to. -/
  look : String → m (Except AccessError Entry)

namespace Disk

variable {m : Type → Type} [Monad m]

/-- Whether a path leads to a file. -/
def isFile (disk : Disk m) (path : String) : m (Except AccessError Bool) := do
  match ← disk.look path with
  | .ok (.file _) => pure (.ok true)
  | .ok .directory => pure (.ok false)
  | .error error => pure (if error.stopsProbe then .error error else .ok false)

/-- The octets of the file at a path. -/
def readOctets (disk : Disk m) (path : String) : m (Except AccessError (List UInt8)) := do
  match ← disk.look path with
  | .ok (.file octets) => pure (.ok octets)
  | .ok .directory => pure (.error .isADirectory)
  | .error error => pure (.error error)

end Disk
end RecordSchema.Files
