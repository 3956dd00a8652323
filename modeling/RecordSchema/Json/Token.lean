import RecordSchema.Number.Double
import RecordSchema.Text.Hex
import RecordSchema.Text.Surrogate
import RecordSchema.Value

/-! The tokens of a JSON text. The text is read one character at a time by a machine, whose state says what
the last characters belong to; a token carries the position where it starts. A text that breaks off inside a
token, or holds what is no token, gives a token that says so, and it is for the reader of the tokens to
complain about that or about the place where the token stands. -/
namespace RecordSchema.Json

open Number

/-- What a JSON text gets wrong. -/
inductive Mistake where
  | value
  | propertyName
  | colon
  | comma
  | unterminatedString
  | controlCharacter
  | escape
  | unicodeEscape
  | extraData
  | byteOrderMark
  deriving DecidableEq, Repr

/-- The marks that stand between values. -/
inductive Punctuation where
  | openBrace
  | closeBrace
  | openBracket
  | closeBracket
  | colon
  | comma
  deriving DecidableEq, Repr

/-- What a token is. -/
inductive Lexeme where
  | mark (punctuation : Punctuation)
  | string (s : String)
  /-- A number or a word. -/
  | literal (v : Value)
  /-- A string with a mistake at a position. -/
  | badString (mistake : Mistake) (position : Nat)
  /-- An integer with too many digits. -/
  | longInteger (digits : Nat)
  /-- A character that starts no token. -/
  | junk
  /-- The end of the text. -/
  | ending

/-- A token and the position of its first character. -/
structure Token where
  position : Nat
  lexeme : Lexeme

/-- How far the characters of a number have come. -/
inductive Phase where
  | minus
  | zero
  | whole
  | point
  | fraction
  | exponent
  | exponentSign
  | exponentDigits
  deriving DecidableEq, Repr

namespace Phase

/-- Whether the characters so far are a whole number. -/
def isComplete : Phase → Bool
  | .zero | .whole | .fraction | .exponentDigits => true
  | .minus | .point | .exponent | .exponentSign => false

/-- Whether a character is the letter of an exponent. -/
def isExponentLetter (c : Char) : Bool := c = 'e' || c = 'E'

/-- The phase after one more character, if the number goes on with it. -/
def next? (phase : Phase) (c : Char) : Option Phase :=
  match phase with
  | .minus => if c = '0' then some .zero else if isDecimalDigit c then some .whole else none
  | .zero => if c = '.' then some .point else if isExponentLetter c then some .exponent else none
  | .whole =>
    if isDecimalDigit c then some .whole else if c = '.' then some .point
    else if isExponentLetter c then some .exponent else none
  | .point => if isDecimalDigit c then some .fraction else none
  | .fraction =>
    if isDecimalDigit c then some .fraction else if isExponentLetter c then some .exponent else none
  | .exponent =>
    if isDecimalDigit c then some .exponentDigits
    else if c = '+' || c = '-' then some .exponentSign else none
  | .exponentSign | .exponentDigits => if isDecimalDigit c then some .exponentDigits else none

end Phase

/-- What the characters of a string have come to: the characters read, last one first, and the first half of
a surrogate pair if the last character was one. -/
structure Reading where
  chars : List Char
  high : Option Nat

namespace Reading

/-- The characters read, last one first, when no second half follows. -/
def closed (reading : Reading) : List Char :=
  match reading.high with
  | some high => Text.standIn high :: reading.chars
  | none => reading.chars

/-- The reading after a character that stands for itself. -/
def push (reading : Reading) (c : Char) : Reading := ⟨c :: reading.closed, none⟩

/-- The reading after an escaped code unit. -/
def pushUnit (reading : Reading) (unit : Nat) : Reading :=
  if Text.isHighHalf unit then ⟨reading.closed, some unit⟩
  else if Text.isLowHalf unit then
    match reading.high with
    | some high => ⟨Char.ofNat (0x10000 + (high - 0xD800) * 0x400 + (unit - 0xDC00)) :: reading.chars, none⟩
    | none => ⟨Text.standIn unit :: reading.chars, none⟩
  else reading.push (Char.ofNat unit)

/-- The text read. -/
def text (reading : Reading) : String := String.ofList reading.closed.reverse

end Reading

/-- What the last characters belong to. -/
inductive LexState where
  /-- To nothing that goes on. -/
  | between
  /-- To a word of which some characters are still to come. -/
  | word (start : Nat) (rest : List Char) (v : Value)
  /-- To a number: its characters up to the last complete phase and those after it, last one first. -/
  | number (start : Nat) (phase : Phase) (accepted pending : List Char)
  /-- To a string. The position of a code-unit escape is kept if that was the last thing read. -/
  | string (start : Nat) (reading : Reading) (escapeAt : Option Nat)
  /-- To an escape in a string, of which the backslash has been read. -/
  | escape (start : Nat) (reading : Reading)
  /-- To a code-unit escape: the position of its letter, the digits still to come, its value so far. -/
  | codeUnit (start : Nat) (reading : Reading) (letterAt : Nat) (missing : Nat) (value : Nat)
  /-- To a string with a mistake; nothing after it is read. -/
  | stopped

/-- White space between tokens. -/
def isSpace (c : Char) : Bool := c = ' ' || c = '\t' || c = '\n' || c = '\r'

/-- The mark that a character is. -/
def punctuation? (c : Char) : Option Punctuation :=
  if c = '\x7b' then some .openBrace
  else if c = '\x7d' then some .closeBrace
  else if c = '[' then some .openBracket
  else if c = ']' then some .closeBracket
  else if c = ':' then some .colon
  else if c = ',' then some .comma
  else none

/-- What the word for no number reads as. All documents that are read share this one object. -/
def documentNaN : Double := .nan (some 0)

/-- The words by their first character: the rest of the word and its value. -/
def word? (c : Char) : Option (List Char × Value) :=
  if c = 't' then some ("rue".toList, .bool true)
  else if c = 'f' then some ("alse".toList, .bool false)
  else if c = 'n' then some ("ull".toList, .null)
  else if c = 'N' then some ("aN".toList, .float documentNaN)
  else if c = 'I' then some ("nfinity".toList, .float (.infinity false))
  else none

/-- What a character starts when nothing goes on before it. -/
def start (position : Nat) (c : Char) : List Token × LexState :=
  if isSpace c then ([], .between)
  else if c = '\x22' then ([], .string position ⟨[], none⟩ none)
  else if c = '-' then ([], .number position .minus [] [c])
  else if c = '0' then ([], .number position .zero [c] [])
  else if isDecimalDigit c then ([], .number position .whole [c] [])
  else match punctuation? c, word? c with
    | some punctuation, _ => ([⟨position, .mark punctuation⟩], .between)
    | none, some (rest, v) => ([], .word position rest v)
    | none, none => ([⟨position, .junk⟩], .between)

/-- The value of the characters of a number. Without a point and an exponent it is an integer. -/
def numberLexeme (text : List Char) : Lexeme :=
  if text.any (fun c => c = '.' || Phase.isExponentLetter c) then
    match Literal.read? text with
    | some literal => .literal (.float (Double.ofLiteral literal))
    | none => .junk
  else
    let (negative, digits) := readSign text
    if digitLimit < digits.length then .longInteger digits.length
    else
      let size : Int := valueOfDigits digits
      .literal (.int (if negative then -size else size))

/-- The tokens of a number that ends before a position. Characters after its last complete phase are no part
of it. -/
def numberTokens (position start : Nat) (accepted pending : List Char) : List Token :=
  if accepted.isEmpty then [⟨start, .junk⟩]
  else ⟨start, numberLexeme accepted.reverse⟩ ::
    if pending.isEmpty then [] else [⟨position - pending.length, .junk⟩]

/-- The characters that simple escapes stand for. -/
def simpleEscape? (c : Char) : Option Char :=
  if c = '\x22' || c = '\\' || c = '/' then some c
  else if c = 'b' then some '\x08'
  else if c = 'f' then some '\x0c'
  else if c = 'n' then some '\n'
  else if c = 'r' then some '\r'
  else if c = 't' then some '\t'
  else none

/-- One step of the machine: the tokens that a character completes, and the next state. -/
def step (position : Nat) (state : LexState) (c : Char) : List Token × LexState :=
  match state with
  | .between => start position c
  | .word at_ rest v =>
    match rest with
    | [] => start position c
    | d :: more =>
      if c = d then
        if more.isEmpty then ([⟨at_, .literal v⟩], .between) else ([], .word at_ more v)
      else ([⟨at_, .junk⟩], .between)
  | .number at_ phase accepted pending =>
    match phase.next? c with
    | some next =>
      if next.isComplete then ([], .number at_ next (c :: (pending ++ accepted)) [])
      else ([], .number at_ next accepted (c :: pending))
    | none =>
      if phase = .minus && c = 'I' then ([], .word at_ "nfinity".toList (.float (.infinity true)))
      else
        let (tokens, next) := start position c
        (numberTokens position at_ accepted pending ++ tokens, next)
  | .string at_ reading _ =>
    if c = '\x22' then ([⟨at_, .string reading.text⟩], .between)
    else if c = '\\' then ([], .escape at_ reading)
    else if c.toNat < 0x20 then ([⟨at_, .badString .controlCharacter position⟩], .stopped)
    else ([], .string at_ (reading.push c) none)
  | .escape at_ reading =>
    if c = 'u' then ([], .codeUnit at_ reading position 4 0)
    else match simpleEscape? c with
      | some d => ([], .string at_ (reading.push d) none)
      | none => ([⟨at_, .badString .escape (position - 1)⟩], .stopped)
  | .codeUnit at_ reading letterAt missing value =>
    match Text.hexValue? c with
    | some digit =>
      let value := 16 * value + digit
      if missing ≤ 1 then ([], .string at_ (reading.pushUnit value) (some letterAt))
      else ([], .codeUnit at_ reading letterAt (missing - 1) value)
    | none => ([⟨at_, .badString .unicodeEscape letterAt⟩], .stopped)
  | .stopped => ([], .stopped)

/-- The tokens that the end of the text completes. -/
def finish (position : Nat) : LexState → List Token
  | .between | .stopped => []
  | .word at_ _ _ => [⟨at_, .junk⟩]
  | .number at_ _ accepted pending => numberTokens position at_ accepted pending
  | .string at_ _ none | .escape at_ _ => [⟨at_, .badString .unterminatedString at_⟩]
  | .string at_ _ (some letterAt) | .codeUnit at_ _ letterAt _ _ => [⟨at_, .badString .unicodeEscape letterAt⟩]

/-- The tokens of the rest of a text that starts at a position in a state. -/
def tokensFrom (position : Nat) (state : LexState) : List Char → List Token
  | [] => finish position state ++ [⟨position, .ending⟩]
  | c :: rest =>
    let (tokens, next) := step position state c
    tokens ++ tokensFrom (position + 1) next rest

/-- The tokens of a text. -/
def tokens (text : List Char) : List Token := tokensFrom 0 .between text

end RecordSchema.Json
