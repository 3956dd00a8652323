import RecordSchema.Value.Kind
import RecordSchema.Number.Shortest
import RecordSchema.Text.Quoted

/-! The written form of values in messages. It shows types apart: texts are quoted, containers carry their
brackets, rule objects the name of their part. -/
namespace RecordSchema

/-- The name of the one part of a rule object. -/
def RuleKind.partName : RuleKind → String
  | .primitive => "tag"
  | .predicate => "func"
  | .enumeration => "values"
  | .array => "item"
  | .composite => "rules"
  | .nested => "schema"
  | .unrecognized => "raw"

/-- The written form of something that can be called. An object's address is always shown as zero. -/
def Callable.display : Callable → String
  | .builtin .toInt => "<class 'int'>"
  | .builtin .toText => "<class 'str'>"
  | .builtin .toBool => "<class 'bool'>"
  | .builtin .toFloat => "<class 'float'>"
  | .builtin .toList => "<class 'list'>"
  | .builtin .length => "<built-in function len>"
  | .builtin .magnitude => "<built-in function abs>"
  | .builtin .point => "<class '__main__.Point'>"
  | .predicate _ name => "<pred " ++ name ++ ">"
  | .function _ name => "<function " ++ name ++ " at 0x0>"

/-- A part of a complex number: no fraction is written where it would be zero. -/
def complexPart (x : Number.Double) : String :=
  let text := x.text.toList
  String.ofList (if text.drop (text.length - 2) = ".0".toList then text.take (text.length - 2) else text)

/-- The written form of a complex number. A positive zero before the imaginary part is left out. -/
def displayComplex (re im : Number.Double) : String :=
  if re.isZero && !re.isNegative then complexPart im ++ "j"
  else "(" ++ complexPart re ++ (if im.isNegative then "" else "+") ++ complexPart im ++ "j)"

/-- Items with a comma and a space between them. -/
def commaSeparated (parts : List String) : String := String.intercalate ", " parts

namespace Value

/-- A word with its argument in brackets. -/
def applied (word argument : String) : String := word ++ "(" ++ argument ++ ")"

/-- Parts in curly brackets. -/
def braced (parts : List String) : String := "\x7b" ++ commaSeparated parts ++ "\x7d"

mutual
/-- The written form of a value. -/
def display : Value → String
  | .null => "None"
  | .undefined => "UNDEFINED"
  | .missing => "<NA>"
  | .missingTime => "NaT"
  | .bool b => if b then "True" else "False"
  | .int n | .derivedInt n => toString n
  | .float x => x.text
  | .fraction q => applied "Fraction" (commaSeparated [toString q.num, toString q.den])
  | .decimal d => applied "Decimal" (Text.quoted d.text)
  | .complex re im => displayComplex re im
  | .text s | .derivedText s => Text.quoted s
  | .octets bytes => Text.quotedOctets bytes
  | .list items => "[" ++ commaSeparated (displayItems items) ++ "]"
  | .tuple [item] => "(" ++ item.display ++ ",)"
  | .tuple items => "(" ++ commaSeparated (displayItems items) ++ ")"
  | .named type items => applied type.name (commaSeparated (type.places.zipWith (· ++ "=" ++ ·) (displayItems items)))
  | .set frozen items =>
    let shown := if items.isEmpty then "" else braced (displayItems items)
    if frozen then applied "frozenset" shown else if items.isEmpty then applied "set" "" else shown
  | .mapping .ordered entries =>
    applied "OrderedDict" (if entries.isEmpty then "" else "[" ++ commaSeparated (displayPairs entries) ++ "]")
  | .mapping .readOnly entries => applied "mappingproxy" (braced (displayEntries entries))
  | .mapping .plain entries => braced (displayEntries entries)
  | .symbol _ => "<object object at 0x0>"
  | .object _ => "Point()"
  | .enumClass name base _ => (if base = .flag then "<flag '" else "<enum '") ++ name ++ "'>"
  | .member owner _ name value => "<" ++ owner ++ "." ++ name ++ ": " ++ value.display ++ ">"
  | .callable callee => callee.display
  | .rule kind part => applied kind.typeName (kind.partName ++ "=" ++ part.display)
termination_by structural v => v

/-- The written forms of items. -/
def displayItems : List Value → List String
  | [] => []
  | item :: items => item.display :: displayItems items
termination_by structural items => items

/-- The written forms of entries with a colon after the key. -/
def displayEntries : List (String × Value) → List String
  | [] => []
  | (key, value) :: entries => (Text.quoted key ++ ": " ++ value.display) :: displayEntries entries
termination_by structural entries => entries

/-- The written forms of entries as pairs. -/
def displayPairs : List (String × Value) → List String
  | [] => []
  | (key, value) :: entries => applied "" (commaSeparated [Text.quoted key, value.display]) :: displayPairs entries
termination_by structural entries => entries
end

end Value
end RecordSchema
