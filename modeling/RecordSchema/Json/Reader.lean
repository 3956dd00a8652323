import RecordSchema.Entries
import RecordSchema.Json.Token

/-! Reading JSON. The tokens drive a machine with a stack: the containers that are still open. Objects keep
their keys in order; of entries with one key the first gives the place and the last the value. -/
namespace RecordSchema.Json

/-- An open container, waiting for the value that is being read. -/
inductive Frame where
  /-- An array with its items so far, last one first. -/
  | array (items : List Value)
  /-- An object with its entries so far and the key of the value. -/
  | object (entries : List (String × Value)) (key : String)

/-- What may come next. -/
inductive ReadState where
  /-- A value. -/
  | value (stack : List Frame)
  /-- The first item of an array or its end. -/
  | firstItem (stack : List Frame)
  /-- A comma or the end of an array. -/
  | afterItem (items : List Value) (stack : List Frame)
  /-- The first key of an object or its end. -/
  | firstKey (stack : List Frame)
  /-- A key. -/
  | key (entries : List (String × Value)) (stack : List Frame)
  /-- The colon after a key. -/
  | colon (entries : List (String × Value)) (key : String) (stack : List Frame)
  /-- A comma or the end of an object. -/
  | afterEntry (entries : List (String × Value)) (stack : List Frame)
  /-- The end of the text. -/
  | done (v : Value)

/-- Why a text cannot be read, by position. -/
inductive Refusal where
  | malformed (mistake : Mistake) (position : Nat)
  | tooManyDigits (count : Nat)
  deriving DecidableEq, Repr

/-- The state after a whole value. -/
def complete (v : Value) : List Frame → ReadState
  | [] => .done v
  | .array items :: stack => .afterItem (v :: items) stack
  | .object entries key :: stack => .afterEntry (Entries.put key v entries) stack

/-- The step where a value is to start. -/
def stepValue (stack : List Frame) (token : Token) : Except Refusal ReadState :=
  match token.lexeme with
  | .mark .openBracket => .ok (.firstItem stack)
  | .mark .openBrace => .ok (.firstKey stack)
  | .string s => .ok (complete (.text s) stack)
  | .literal v => .ok (complete v stack)
  | .badString mistake position => .error (.malformed mistake position)
  | .longInteger digits => .error (.tooManyDigits digits)
  | .mark _ | .junk | .ending => .error (.malformed .value token.position)

/-- The step where a key is to start. -/
def stepKey (entries : List (String × Value)) (stack : List Frame) (token : Token) : Except Refusal ReadState :=
  match token.lexeme with
  | .string key => .ok (.colon entries key stack)
  | .badString mistake position => .error (.malformed mistake position)
  | _ => .error (.malformed .propertyName token.position)

/-- One step of the machine. -/
def readStep (state : ReadState) (token : Token) : Except Refusal ReadState :=
  match state with
  | .value stack => stepValue stack token
  | .firstItem stack => match token.lexeme with
    | .mark .closeBracket => .ok (complete (.list []) stack)
    | _ => stepValue (.array [] :: stack) token
  | .afterItem items stack => match token.lexeme with
    | .mark .comma => .ok (.value (.array items :: stack))
    | .mark .closeBracket => .ok (complete (.list items.reverse) stack)
    | _ => .error (.malformed .comma token.position)
  | .firstKey stack => match token.lexeme with
    | .mark .closeBrace => .ok (complete (.mapping .plain []) stack)
    | _ => stepKey [] stack token
  | .key entries stack => stepKey entries stack token
  | .colon entries key stack => match token.lexeme with
    | .mark .colon => .ok (.value (.object entries key :: stack))
    | _ => .error (.malformed .colon token.position)
  | .afterEntry entries stack => match token.lexeme with
    | .mark .comma => .ok (.key entries stack)
    | .mark .closeBrace => .ok (complete (.mapping .plain entries) stack)
    | _ => .error (.malformed .comma token.position)
  | .done v => match token.lexeme with
    | .ending => .ok (.done v)
    | _ => .error (.malformed .extraData token.position)

/-- The state after a run of tokens. -/
def readTokens (state : ReadState) (tokens : List Token) : Except Refusal ReadState :=
  tokens.foldlM readStep state

/-- The value that the characters of a text spell. A byte order mark may not come first. -/
def readChars (text : List Char) : Except Refusal Value :=
  match text.head? with
  | some '\uFEFF' => .error (.malformed .byteOrderMark 0)
  | _ => do
    match ← readTokens (.value []) (tokens text) with
    | .done v => .ok v
    | _ => .error (.malformed .value text.length)

/-- The words for a mistake. -/
def Mistake.words : Mistake → String
  | .value => "Expecting value"
  | .propertyName => "Expecting property name enclosed in double quotes"
  | .colon => "Expecting ':' delimiter"
  | .comma => "Expecting ',' delimiter"
  | .unterminatedString => "Unterminated string starting at"
  | .controlCharacter => "Invalid control character at"
  | .escape => "Invalid \\escape"
  | .unicodeEscape => "Invalid \\uXXXX escape"
  | .extraData => "Extra data"
  | .byteOrderMark => "Unexpected UTF-8 BOM (decode using utf-8-sig)"

/-- A mistake and where it was made: line and column are counted from one on, the position from zero on. -/
structure Complaint where
  mistake : Mistake
  line : Nat
  column : Nat
  position : Nat
  deriving DecidableEq, Repr

/-- The text of a complaint. -/
def Complaint.message (complaint : Complaint) : String :=
  s!"{complaint.mistake.words}: line {complaint.line} column {complaint.column} (char {complaint.position})"

/-- The complaint about a mistake at a position in a text. -/
def complain (text : List Char) (mistake : Mistake) (position : Nat) : Complaint :=
  let before := text.take position
  ⟨mistake, before.count '\n' + 1, (before.reverse.takeWhile (· ≠ '\n')).length + 1, position⟩

/-- Why a text cannot be read. -/
inductive ReadError where
  | malformed (complaint : Complaint)
  | tooManyDigits (count : Nat)
  deriving DecidableEq, Repr

/-- The error that a refusal in a text is. -/
def Refusal.inText (text : List Char) : Refusal → ReadError
  | .malformed mistake position => .malformed (complain text mistake position)
  | .tooManyDigits count => .tooManyDigits count

/-- The value that a text spells. -/
def read (text : List Char) : Except ReadError Value := (readChars text).mapError (Refusal.inText text)

end RecordSchema.Json
