import RecordSchema.Value

/-! Classification of values. Every value has one kind, which decides what a type tag accepts, and one type,
which equality and messages look at. -/
namespace RecordSchema

/-- The kinds of values. -/
inductive Kind where
  | undefined
  | null
  | boolean
  | number
  | string
  | array
  | object
  | other
  deriving DecidableEq, Repr

/-- The name of a kind. -/
def Kind.name : Kind → String
  | .undefined => "undefined"
  | .null => "null"
  | .boolean => "boolean"
  | .number => "number"
  | .string => "string"
  | .array => "array"
  | .object => "object"
  | .other => "other"

/-- The kind of a value. Numbers are the real ones with a fixed order, so decimals and complex numbers are
of another kind; a class member is of the kind of what it is besides a member. -/
def Value.kind {Key : Type} : Value Key → Kind
  | .undefined => .undefined
  | .null => .null
  | .bool _ => .boolean
  | .int _ | .derivedInt _ | .float _ | .fraction _ | .member _ .integer _ _ => .number
  | .text _ | .derivedText _ | .member _ .text _ _ => .string
  | .list _ | .tuple _ | .named _ _ => .array
  | .mapping _ _ => .object
  | _ => .other

/-- Whether a number is of an integer type. -/
def Value.isInteger : Value → Bool
  | .int _ | .derivedInt _ | .member _ .integer _ _ => true
  | _ => false

/-- The type tags of a schema: the eight known names, and any other name. -/
inductive Tag where
  | string
  | number
  | boolean
  | object
  | symbol
  | bigint
  | undefined
  | null
  /-- A tag that names no type and matches nothing. -/
  | unknown
  /-- A missing cell in the place of a tag. It matches nothing, but whether it is another tag cannot be told. -/
  | undetermined
  deriving DecidableEq, Repr

namespace Tag

/-- The known tags with their names, in alphabetical order. -/
def known : List (String × Tag) :=
  [("bigint", .bigint), ("boolean", .boolean), ("null", .null), ("number", .number), ("object", .object),
    ("string", .string), ("symbol", .symbol), ("undefined", .undefined)]

/-- The tag of a name. -/
def ofName (name : String) : Tag := (known.lookup name).getD .unknown

/-- Whether a value is of the type that a tag names. Arrays are objects too; only a bare object is a
symbol. -/
def accepts : Tag → Value → Bool
  | .string, v => v.kind == .string
  | .number, v => v.kind == .number
  | .boolean, v => v.kind == .boolean
  | .object, v => v.kind == .object || v.kind == .array
  | .symbol, .symbol _ => true
  | .symbol, _ => false
  | .bigint, v => v.kind == .number && v.isInteger
  | .undefined, v => v.kind == .undefined
  | .null, v => v.kind == .null
  | .unknown, _ | .undetermined, _ => false

end Tag

/-- The types of values, as finely as `strictEqual` and the messages tell them apart. -/
inductive ValueType where
  /-- A type of this library, by its name. -/
  | own (name : String)
  /-- An enumeration class, as the type of its members. -/
  | enumeration (name : String)
  /-- A type derived from tuples. -/
  | derivedTuple (type : TupleType)
  deriving DecidableEq, Repr

/-- The name of a type. -/
def ValueType.name : ValueType → String
  | .own name | .enumeration name => name
  | .derivedTuple type => type.name

/-- The name of the type of rule objects of a kind. -/
def RuleKind.typeName : RuleKind → String
  | .primitive => "PrimitiveRule"
  | .predicate => "PredicateRule"
  | .enumeration => "EnumRule"
  | .array => "ArrayRule"
  | .composite => "CompositeRule"
  | .nested => "NestedRule"
  | .unrecognized => "UnrecognizedRule"

/-- The name of the type of mappings of a kind. -/
def MappingKind.typeName : MappingKind → String
  | .plain => "dict"
  | .ordered => "OrderedDict"
  | .readOnly => "mappingproxy"

/-- The name of the type of something that can be called. -/
def Callable.typeName : Callable → String
  | .builtin .length | .builtin .magnitude => "builtin_function_or_method"
  | .builtin _ => "type"
  | .predicate _ _ => "Pred"
  | .function _ _ => "function"

/-- The type of a value. -/
def Value.type {Key : Type} : Value Key → ValueType
  | .null => .own "NoneType"
  | .undefined => .own "_Undefined"
  | .missing => .own "NAType"
  | .missingTime => .own "NaTType"
  | .bool _ => .own "bool"
  | .int _ => .own "int"
  | .derivedInt _ => .own "IntSub"
  | .float _ => .own "float"
  | .fraction _ => .own "Fraction"
  | .decimal _ => .own "Decimal"
  | .complex _ _ => .own "complex"
  | .text _ => .own "str"
  | .derivedText _ => .own "StrSub"
  | .octets _ => .own "bytes"
  | .list _ => .own "list"
  | .tuple _ => .own "tuple"
  | .named type _ => .derivedTuple type
  | .set frozen _ => .own (if frozen then "frozenset" else "set")
  | .mapping kind _ => .own kind.typeName
  | .symbol _ => .own "object"
  | .object _ => .own "Point"
  | .enumClass _ _ _ => .own "EnumType"
  | .member owner _ _ _ => .enumeration owner
  | .callable callee => .own callee.typeName
  | .rule kind _ => .own kind.typeName

/-- The name of the type of a value, as messages give it. -/
def Value.typeName (v : Value) : String := v.type.name

end RecordSchema
