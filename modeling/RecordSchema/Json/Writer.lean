import RecordSchema.Report
import RecordSchema.Text.Hex
import RecordSchema.Text.Surrogate

/-! Writing reports as JSON in ASCII, one entry a line, two spaces of indentation a level. -/
namespace RecordSchema.Json

/-- An escape by code unit. -/
def unitEscape (unit : Nat) : List Char := '\\' :: 'u' :: Text.hex 4 unit

/-- The escapes that have a letter of their own. -/
def letterEscape? (c : Char) : Option Char :=
  if c = '\x22' || c = '\\' then some c
  else if c = '\n' then some 'n'
  else if c = '\r' then some 'r'
  else if c = '\t' then some 't'
  else if c = '\x08' then some 'b'
  else if c = '\x0c' then some 'f'
  else none

/-- One character of a string. What is not printable ASCII is escaped by its UTF-16 code units. -/
def escapeChar (c : Char) : List Char :=
  match letterEscape? c with
  | some letter => ['\\', letter]
  | none =>
    if 0x20 ≤ c.toNat && c.toNat < 0x7F then [c]
    else if c.toNat < 0x10000 then unitEscape c.toNat
    else
      let offset := c.toNat - 0x10000
      unitEscape (0xD800 + offset / 0x400) ++ unitEscape (0xDC00 + offset % 0x400)

/-- The characters of a string. A stand-in is written as the half that it stands for, except that a second
half right after a first one would make a pair with it, so that one is written as the character it is. -/
def escapeText (afterHigh : Bool) : List Char → List Char
  | [] => []
  | c :: rest => match Text.halfOf? c with
    | none => escapeChar c ++ escapeText false rest
    | some half =>
      if afterHigh && Text.isLowHalf half then escapeChar c ++ escapeText false rest
      else unitEscape half ++ escapeText (Text.isHighHalf half) rest

/-- A string. -/
def writeString (s : String) : List Char := '\x22' :: (escapeText false s.toList ++ ['\x22'])

/-- A new line at a level of indentation. -/
def newLine (level : Nat) : List Char := '\n' :: List.replicate (2 * level) ' '

/-- The word for a truth value. -/
def writeBool (b : Bool) : List Char := if b then "true".toList else "false".toList

mutual
/-- A verdict that stands at a level of indentation. -/
def writeVerdict (level : Nat) : Verdict → List Char
  | .leaf passed => writeBool passed
  | .branch [] => ['\x7b', '\x7d']
  | .branch ((key, verdict) :: rest) =>
    '\x7b' :: (newLine (level + 1) ++ writeString key ++ [':', ' '] ++ writeVerdict (level + 1) verdict ++
      writeEntries (level + 1) rest ++ newLine level ++ ['\x7d'])
termination_by structural verdict => verdict

/-- The entries after the first one, at a level of indentation. -/
def writeEntries (level : Nat) : List (String × Verdict) → List Char
  | [] => []
  | (key, verdict) :: rest =>
    ',' :: (newLine level ++ writeString key ++ [':', ' '] ++ writeVerdict level verdict ++ writeEntries level rest)
termination_by structural fields => fields
end

/-- A report. -/
def writeReport (report : Report) : List Char := writeVerdict 0 (.branch report)

/-- An array of reports. -/
def writeReports : List Report → List Char
  | [] => ['[', ']']
  | first :: rest =>
    '[' :: (newLine 1 ++ writeVerdict 1 (.branch first) ++
      rest.flatMap (fun report => ',' :: (newLine 1 ++ writeVerdict 1 (.branch report))) ++ ['\n', ']'])

end RecordSchema.Json
