import RecordSchema.Number.Decimal

/-! The values that records, schemas and enumerations are made of. A value is dynamic data: it may be a
scalar of one of several numeric formats, text, octets, a container, an object known only by its identity,
a member of an enumeration class, something that can be called, or a rule object built by hand.

Mappings keep their entries in order and hold each key once; sets hold no two equal items. -/
namespace RecordSchema

open Number

/-- How a mapping is stored. An ordered mapping takes part of its identity from the order of its entries
when it meets another ordered one; a read-only one is a view of a plain one. -/
inductive MappingKind where
  | plain
  | ordered
  | readOnly
  deriving DecidableEq, Repr

/-- What the members of an enumeration class are besides members of it. -/
inductive MemberBase where
  | plain
  | integer
  | text
  | flag
  deriving DecidableEq, Repr

/-- Converters, measures and the class of plain instances, which can all be called with one argument. -/
inductive Builtin where
  | toInt
  | toText
  | toBool
  | toFloat
  | toList
  | length
  | magnitude
  | point
  deriving DecidableEq, Repr

/-- Things that can be called with one value. What a predicate or a function does is not part of the value:
it is found by the identity of the callee. -/
inductive Callable where
  | builtin (function : Builtin)
  | predicate (id : Nat) (name : String)
  | function (id : Nat) (name : String)
  deriving DecidableEq, Repr

/-- The kinds of rule objects. -/
inductive RuleKind where
  | primitive
  | predicate
  | enumeration
  | array
  | composite
  | nested
  | unrecognized
  deriving DecidableEq, Repr

/-- A type derived from tuples, which names the places of its values. -/
structure TupleType where
  name : String
  places : List String
  deriving DecidableEq, Repr

/-- A value. The keys of mappings are texts, unless they are said to be of another type. -/
inductive Value (Key : Type := String) where
  /-- The empty value. -/
  | null
  /-- The mark of a key that is explicitly bound to no value. -/
  | undefined
  /-- The mark of a missing cell. A comparison with it may have no outcome. -/
  | missing
  /-- The mark of a missing point in time, which differs from everything. -/
  | missingTime
  | bool (b : Bool)
  | int (n : Int)
  /-- An integer of a derived type. -/
  | derivedInt (n : Int)
  | float (x : Double)
  | fraction (q : Rat)
  | decimal (d : Decimal)
  | complex (re im : Double)
  | text (s : String)
  /-- A text of a derived type. -/
  | derivedText (s : String)
  | octets (bytes : List UInt8)
  | list (items : List (Value Key))
  | tuple (items : List (Value Key))
  /-- A tuple of a derived type. -/
  | named (type : TupleType) (items : List (Value Key))
  | set (frozen : Bool) (items : List (Value Key))
  | mapping (kind : MappingKind) (entries : List (Key × Value Key))
  /-- A bare object, known by its identity alone. -/
  | symbol (id : Nat)
  /-- An instance of the plain class, known by its identity alone. -/
  | object (id : Nat)
  /-- An enumeration class with the names and values of its members. -/
  | enumClass (name : String) (base : MemberBase) (members : List (String × Value Key))
  /-- A member of an enumeration class. -/
  | member (owner : String) (base : MemberBase) (name : String) (value : Value Key)
  | callable (callee : Callable)
  /-- A rule object with its one part, which nothing has checked. -/
  | rule (kind : RuleKind) (part : Value Key)

instance : Inhabited Value := ⟨.null⟩

/-- Why an operation on values fails. -/
inductive Fault where
  /-- The truth of a comparison with a missing cell was asked for. -/
  | undetermined
  /-- A signalling decimal was compared with a number. -/
  | signalled
  /-- The value does not support the operation. -/
  | unsupported
  /-- Fields were asked of something that is no mapping. -/
  | notAMapping
  /-- A number is too large for its target format. -/
  | overflow
  /-- The order of decimals was asked for where one side is no number. -/
  | unordered
  /-- A text does not spell a float. -/
  | notAFloat (shown : String)
  /-- A text does not spell an integer. -/
  | notAnInteger (shown : String)
  /-- What is no number was to become an integer. -/
  | nanToInteger (decimal : Bool)
  /-- A signalling decimal was to become a float. -/
  | nanToFloat
  /-- An integer was spelt with more digits than the limit allows. -/
  | tooManyDigits (count : Nat)
  /-- A predicate refused with an error of its own. -/
  | refused (error : String) (text : String)
  deriving DecidableEq, Repr

/-- The most digits that a text may use for an integer. -/
def digitLimit : Nat := 4300

/-- The complaint about a text that spells an integer with too many digits. -/
def tooManyDigitsMessage (count : Nat) : String :=
  s!"Exceeds the limit ({digitLimit} digits) for integer string conversion: value has {count} digits; use sys.set_int_max_str_digits() to increase the limit"

/-- What a fault says, where its wording is fixed. -/
def Fault.message? : Fault → Option String
  | .notAFloat shown => some s!"could not convert string to float: {shown}"
  | .notAnInteger shown => some s!"invalid literal for int() with base 10: {shown}"
  | .nanToInteger decimal => some (if decimal then "cannot convert NaN to integer" else "cannot convert float NaN to integer")
  | .nanToFloat => some "cannot convert signaling NaN to float"
  | .tooManyDigits count => some (tooManyDigitsMessage count)
  | .refused _ text => some text
  | .signalled | .unordered => some "[<class 'decimal.InvalidOperation'>]"
  | .undetermined | .unsupported | .notAMapping | .overflow => none

namespace Value

/-- The members of an enumeration class, in order. -/
def classMembers (owner : String) (base : MemberBase) (members : List (String × Value)) : List Value :=
  members.map fun (name, value) => .member owner base name value

/-- The entries of a mapping. -/
def entries? : Value → Option (List (String × Value))
  | .mapping _ entries => some entries
  | _ => none

/-- The values met when a value is walked through: the items of a container, the keys of a mapping, the
characters of a text, the octets, the members of a class. -/
def items? : Value → Option (List Value)
  | .list items | .tuple items | .named _ items | .set _ items => some items
  | .mapping _ entries => some (entries.map fun (key, _) => .text key)
  | .text s | .derivedText s => some (s.toList.map fun c => .text c.toString)
  | .octets bytes => some (bytes.map fun byte => .int byte.toNat)
  | .enumClass owner base members => some (classMembers owner base members)
  | .member owner .flag name value => some [.member owner .flag name value]
  | .member _ .text _ (.text s) => some (s.toList.map fun c => .text c.toString)
  | _ => none

/-- The text of a value that is a text of some type. -/
def text? {Key : Type} : Value Key → Option String
  | .text s | .derivedText s => some s
  | .member _ .text _ (.text s) => some s
  | _ => none

/-- A complex number by its two parts; a real number has the second part zero. -/
structure Numeral where
  re : Extended
  im : Extended

/-- The number that a value of any numeric type stands for. -/
def numeral? {Key : Type} : Value Key → Option Numeral
  | .bool b => some ⟨.finite (if b then 1 else 0), .finite 0⟩
  | .int n | .derivedInt n | .member _ .integer _ (.int n) => some ⟨.finite n, .finite 0⟩
  | .float x => some ⟨x.value, .finite 0⟩
  | .fraction q => some ⟨.finite q, .finite 0⟩
  | .decimal d => some ⟨d.value, .finite 0⟩
  | .complex re im => some ⟨re.value, im.value⟩
  | _ => none

/-- Numbers are equal when both parts are. -/
def Numeral.equal (a b : Numeral) : Bool := a.re.equal b.re && a.im.equal b.im

end Value
end RecordSchema
