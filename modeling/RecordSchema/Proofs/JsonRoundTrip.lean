import Mathlib.Tactic.SplitIfs
import RecordSchema.Json.Reader
import RecordSchema.Json.Writer
import RecordSchema.Proofs.EntryLists
import RecordSchema.Proofs.NodePaths

/-! Reports written and read back. The text of a report takes the reader, from wherever a
value may start, to where that value has been read: mark by mark, string by string, and
with it verdict by verdict. A string keeps all its characters, whatever they are: what is
no printable ASCII is escaped by code units, and two halves of a surrogate pair become one
character only where they were written as one. -/
namespace RecordSchema

mutual
/-- Whether no report at or below a verdict has a key twice. -/
def Verdict.hasDistinctKeys : Verdict → Bool
  | .leaf _ => true
  | .branch fields => Report.hasDistinctKeys fields
termination_by structural verdict => verdict

/-- Whether neither a report nor any report below it has a key twice. -/
def Report.hasDistinctKeys : List (String × Verdict) → Bool
  | [] => true
  | (key, verdict) :: rest => !Entries.has key rest && verdict.hasDistinctKeys && Report.hasDistinctKeys rest
termination_by structural fields => fields
end

namespace Json

/-- Characters that are one token, whatever comes after them. -/
def Tokenizes (chars : List Char) (lexeme : Lexeme) : Prop :=
  ∀ position rest, tokensFrom position .between (chars ++ rest) =
    ⟨position, lexeme⟩ :: tokensFrom (position + chars.length) .between rest

/-- Characters that take the reader from one state to another, whatever comes after them. -/
def Takes (chars : List Char) (state next : ReadState) : Prop :=
  ∀ position rest, readTokens state (tokensFrom position .between (chars ++ rest)) =
    readTokens next (tokensFrom (position + chars.length) .between rest)

/-- Characters inside a string that add to what has been read of it. -/
def Adds (chars : List Char) (reading next : Reading) : Prop :=
  ∀ start position escapeAt rest, ∃ escapeAt',
    tokensFrom position (.string start reading escapeAt) (chars ++ rest) =
      tokensFrom (position + chars.length) (.string start next escapeAt') rest

namespace RoundTrip

variable {chars more : List Char} {reading next final : Reading} {state state' state'' : ReadState} {lexeme : Lexeme}
  {stack : List Frame} {c : Char}

/-! ## Strings -/

theorem tokens_from_cons (position : Nat) (state : LexState) (c : Char) (rest : List Char) :
    tokensFrom position state (c :: rest) =
      (step position state c).1 ++ tokensFrom (position + 1) (step position state c).2 rest := rfl

theorem adds_both (head : Adds chars reading next) (tail : Adds more next final) :
    Adds (chars ++ more) reading final := by
  intro start position escapeAt rest
  obtain ⟨escapeAt', first⟩ := head start position escapeAt (more ++ rest)
  obtain ⟨escapeAt'', second⟩ := tail start (position + chars.length) escapeAt' rest
  refine ⟨escapeAt'', ?_⟩
  rw [List.append_assoc, first, second, List.length_append, Nat.add_assoc]

theorem adds_plain (quote : c ≠ '\x22') (backslash : c ≠ '\\') (printable : 0x20 ≤ c.toNat) :
    Adds [c] reading (reading.push c) := by
  intro start position escapeAt rest
  have control : ¬ c.toNat < 0x20 := by omega
  refine ⟨none, ?_⟩
  rw [List.singleton_append, tokens_from_cons]
  simp only [step, if_neg quote, if_neg backslash, if_neg control]
  rfl

theorem adds_letter {letter : Char} (unit : letter ≠ 'u') (simple : simpleEscape? letter = some c) :
    Adds ['\\', letter] reading (reading.push c) := by
  intro start position escapeAt rest
  have escaped : step position (.string start reading escapeAt) '\\' = ([], .escape start reading) := rfl
  have added : step (position + 1) (.escape start reading) letter = ([], .string start (reading.push c) none) := by
    simp only [step, if_neg unit, simple]
  refine ⟨none, ?_⟩
  rw [List.cons_append, List.singleton_append, tokens_from_cons, escaped, tokens_from_cons, added]
  rfl

theorem hex_value_digit {digit : Nat} (small : digit < 16) : Text.hexValue? (Text.hexDigit digit) = some digit := by
  have all : ∀ digit : Fin 16, Text.hexValue? (Text.hexDigit digit) = some digit.val := by decide
  exact all ⟨digit, small⟩

theorem adds_unit {unit : Nat} (small : unit < 0x10000) : Adds (unitEscape unit) reading (reading.pushUnit unit) := by
  intro start position escapeAt rest
  have digits : unitEscape unit = ['\\', 'u', Text.hexDigit (unit / 16 / 16 / 16 % 16),
      Text.hexDigit (unit / 16 / 16 % 16), Text.hexDigit (unit / 16 % 16), Text.hexDigit (unit % 16)] := rfl
  have digit (n : Nat) : Text.hexValue? (Text.hexDigit (n % 16)) = some (n % 16) :=
    hex_value_digit (Nat.mod_lt n (by omega))
  have value : 16 * (16 * (16 * (unit / 16 / 16 / 16 % 16) + unit / 16 / 16 % 16) + unit / 16 % 16) + unit % 16 =
      unit := by omega
  refine ⟨some (position + 1), ?_⟩
  rw [digits]
  simp only [List.cons_append, List.nil_append, tokens_from_cons, step, digit]
  simp [value]

theorem letter_escape_simple {letter : Char} (escaped : letterEscape? c = some letter) :
    letter ≠ 'u' ∧ simpleEscape? letter = some c := by
  unfold letterEscape? at escaped
  split_ifs at escaped with mark line turn tab back feed <;> cases escaped
  · simp only [Bool.or_eq_true, decide_eq_true_eq] at mark
    rcases mark with rfl | rfl <;> decide
  · subst line; decide
  · subst turn; decide
  · subst tab; decide
  · subst back; decide
  · subst feed; decide

theorem char_range (c : Char) : c.toNat < 0xD800 ∨ 0xDFFF < c.toNat ∧ c.toNat < 0x110000 := c.valid

/-- A character is no half of a surrogate pair. -/
theorem char_no_half (c : Char) : Text.isHighHalf c.toNat = false ∧ Text.isLowHalf c.toNat = false := by
  have range := char_range c
  simp only [Text.isHighHalf, Text.isLowHalf, Bool.and_eq_false_iff, decide_eq_false_iff_not]
  omega

/-- The two halves of a character are read as that character. -/
theorem halves_joined (large : 0x10000 ≤ c.toNat) :
    (reading.pushUnit (0xD800 + (c.toNat - 0x10000) / 0x400)).pushUnit (0xDC00 + (c.toNat - 0x10000) % 0x400) =
      reading.push c := by
  have range := char_range c
  generalize offset : c.toNat - 0x10000 = n
  have first : Text.isHighHalf (0xD800 + n / 0x400) = true := by
    simp only [Text.isHighHalf, Bool.and_eq_true, decide_eq_true_eq]
    omega
  have second : Text.isHighHalf (0xDC00 + n % 0x400) = false ∧ Text.isLowHalf (0xDC00 + n % 0x400) = true := by
    simp only [Text.isHighHalf, Text.isLowHalf, Bool.and_eq_true, Bool.and_eq_false_iff, decide_eq_true_eq,
      decide_eq_false_iff_not]
    omega
  have whole : 0x10000 + n / 0x400 * 0x400 + n % 0x400 = c.toNat := by omega
  simp [Reading.pushUnit, Reading.push, first, second, whole]

/-- A character that is escaped as it is reads as itself. -/
theorem adds_escaped (c : Char) : Adds (escapeChar c) reading (reading.push c) := by
  unfold escapeChar
  split
  next letter escaped =>
    obtain ⟨unit, simple⟩ := letter_escape_simple escaped
    exact adds_letter unit simple
  next unescaped =>
    split_ifs with printable small
    · simp only [Bool.and_eq_true, decide_eq_true_eq] at printable
      have quote : c ≠ '\x22' := by rintro rfl; cases unescaped
      have backslash : c ≠ '\\' := by rintro rfl; cases unescaped
      exact adds_plain quote backslash printable.1
    · have pushed : reading.pushUnit c.toNat = reading.push c := by
        simp [Reading.pushUnit, char_no_half, Char.ofNat_toNat]
      rw [← pushed]
      exact adds_unit small
    · have range := char_range c
      rw [← halves_joined (by omega)]
      exact adds_both (adds_unit (by omega)) (adds_unit (by omega))

theorem stand_in_of_half {half : Nat} (stands : Text.halfOf? c = some half) :
    Text.standIn half = c ∧ half < 0x10000 ∧ Text.isLowHalf half = !Text.isHighHalf half := by
  unfold Text.halfOf? at stands
  split at stands
  next within =>
    simp only [Bool.and_eq_true, decide_eq_true_eq] at within
    simp only [Option.some.injEq, Text.standInOffset] at stands
    have above : Text.standInOffset + half = c.toNat := by
      simp only [Text.standInOffset]
      omega
    refine ⟨by rw [Text.standIn, above, Char.ofNat_toNat], by omega, ?_⟩
    rw [Bool.eq_not, Text.isHighHalf, Text.isLowHalf, ne_eq, Bool.eq_iff_iff]
    simp only [Bool.and_eq_true, decide_eq_true_eq]
    omega
  next => cases stands

/-- The characters of a string are read one by one. Whether a first half is open is what
the writer keeps track of as well, so that no second half is put after it. -/
theorem adds_text (chars : List Char) (reading : Reading) :
    ∃ next, Adds (escapeText reading.high.isSome chars) reading next ∧
      next.closed = chars.reverse ++ reading.closed := by
  induction chars generalizing reading with
  | nil => exact ⟨reading, fun _ _ escapeAt _ => ⟨escapeAt, rfl⟩, rfl⟩
  | cons c rest ih =>
    have pushed : ∃ next, Adds (escapeChar c ++ escapeText false rest) reading next ∧
        next.closed = (c :: rest).reverse ++ reading.closed := by
      obtain ⟨next, adds, closed⟩ := ih (reading.push c)
      refine ⟨next, adds_both (adds_escaped c) adds, ?_⟩
      rw [closed, List.reverse_cons, List.append_assoc]
      rfl
    rw [escapeText]
    split
    next => exact pushed
    next half stands =>
      split
      next => exact pushed
      next apart =>
        obtain ⟨same, small, either⟩ := stand_in_of_half stands
        have opened : (reading.pushUnit half).high.isSome = Text.isHighHalf half ∧
            (reading.pushUnit half).closed = c :: reading.closed := by
          cases first : Text.isHighHalf half with
          | true => simp [Reading.pushUnit, Reading.closed, first, same]
          | false =>
            have alone : reading.high = none := by simpa [either, first] using apart
            simp [Reading.pushUnit, Reading.closed, first, either, alone, same]
        obtain ⟨next, adds, closed⟩ := ih (reading.pushUnit half)
        rw [opened.1] at adds
        refine ⟨next, adds_both (adds_unit small) adds, ?_⟩
        rw [closed, opened.2, List.reverse_cons, List.append_assoc]
        rfl

theorem string_tokenizes (s : String) : Tokenizes (writeString s) (.string s) := by
  intro position rest
  obtain ⟨next, adds, closed⟩ := adds_text s.toList ⟨[], none⟩
  obtain ⟨escapeAt, inside⟩ := adds position (position + 1) none ('\x22' :: rest)
  have text : next.text = s := by
    rw [Reading.text, closed]
    simp [Reading.closed]
  have opened : step position .between '\x22' = ([], .string position ⟨[], none⟩ none) := rfl
  have ended (position' : Nat) : step position' (.string position next escapeAt) '\x22' =
      ([⟨position, .string s⟩], .between) := by
    rw [← text]
    rfl
  have length : position + 1 + (escapeText false s.toList).length + 1 = position + (writeString s).length := by
    simp [writeString]
    omega
  rw [writeString, List.cons_append, List.append_assoc, List.singleton_append, tokens_from_cons, opened]
  simp only [Option.isSome_none] at inside
  rw [List.nil_append, inside, tokens_from_cons, ended, length]
  rfl

/-! ## Marks, words and white space -/

theorem takes_both (head : Takes chars state state') (tail : Takes more state' state'') :
    Takes (chars ++ more) state state'' := by
  intro position rest
  rw [List.append_assoc, head, tail, List.length_append, Nat.add_assoc]

theorem takes_none : Takes [] state state := fun _ _ => rfl

/-- A token takes the reader where its step does. -/
theorem takes_token (token : Tokenizes chars lexeme)
    (step : ∀ position, readStep state ⟨position, lexeme⟩ = .ok state') : Takes chars state state' := by
  intro position rest
  rw [token position rest, readTokens, List.foldlM_cons, step]
  rfl

theorem takes_mark {punctuation : Punctuation}
    (mark : ∀ position, start position c = ([⟨position, .mark punctuation⟩], .between))
    (step : ∀ position, readStep state ⟨position, .mark punctuation⟩ = .ok state') : Takes [c] state state' := by
  refine takes_token (fun position rest => ?_) step
  have begun : Json.step position .between c = ([⟨position, .mark punctuation⟩], .between) := mark position
  rw [List.singleton_append, tokens_from_cons, begun]
  rfl

theorem takes_space (blank : ∀ c ∈ chars, isSpace c = true) : Takes chars state state := by
  induction chars with
  | nil => exact takes_none
  | cons c rest ih =>
    rw [List.forall_mem_cons] at blank
    have skipped : Takes [c] state state := by
      intro position rest
      have begun : step position .between c = ([], .between) := by simp only [step, start, blank.1, if_true]
      rw [List.singleton_append, tokens_from_cons, begun]
      rfl
    exact takes_both skipped (ih blank.2)

theorem new_line_blank (level : Nat) : ∀ c ∈ newLine level, isSpace c = true := by
  intro c member
  rcases List.mem_cons.mp member with rfl | member
  · rfl
  · cases List.eq_of_mem_replicate member
    rfl

theorem bool_tokenizes (b : Bool) : Tokenizes (writeBool b) (.literal (.bool b)) := by
  intro position rest
  cases b <;> rfl

/-! ## Verdicts -/

/-- A key with its colon, on a line of its own. -/
theorem takes_key {entries : List (String × Value)} (level : Nat) (key : String)
    (step : ∀ position, readStep state ⟨position, .string key⟩ = .ok (.colon entries key stack)) :
    Takes (newLine level ++ writeString key ++ [':', ' ']) state (.value (.object entries key :: stack)) := by
  have colon : Takes [':'] (.colon entries key stack) (.value (.object entries key :: stack)) :=
    takes_mark (fun _ => rfl) fun _ => rfl
  have blank : Takes [' '] (.value (.object entries key :: stack)) (.value (.object entries key :: stack)) :=
    takes_space (by simp [isSpace])
  exact takes_both (takes_both (takes_space (new_line_blank level)) (takes_token (string_tokenizes key) step))
    (takes_both colon blank)

mutual
/-- The text of a verdict reads as the value that it is. -/
theorem takes_verdict (level : Nat) (stack : List Frame) : ∀ verdict : Verdict, verdict.hasDistinctKeys = true →
    Takes (writeVerdict level verdict) (.value stack) (complete verdict.toValue stack)
  | .leaf passed, _ => takes_token (bool_tokenizes passed) fun _ => rfl
  | .branch fields, distinct => by
    obtain ⟨inside, written, taken⟩ := takes_report level stack fields distinct
    have opened : Takes ['\x7b'] (.value stack) (.firstKey stack) := takes_mark (fun _ => rfl) fun _ => rfl
    rw [written]
    exact takes_both opened taken

/-- After the brace that opens it, the text of a report reads as that report. -/
theorem takes_report (level : Nat) (stack : List Frame) : ∀ report : Report, Report.hasDistinctKeys report = true →
    ∃ inside, writeVerdict level (.branch report) = '\x7b' :: inside ∧
      Takes inside (.firstKey stack) (complete (Report.toValue report) stack)
  | [], _ => ⟨['\x7d'], rfl, takes_mark (fun _ => rfl) fun _ => rfl⟩
  | (key, verdict) :: rest, distinct => by
    simp only [Report.hasDistinctKeys, Bool.and_eq_true, Bool.not_eq_true'] at distinct
    obtain ⟨⟨new, distinct⟩, distinct'⟩ := distinct
    have named : Takes _ (.firstKey stack) (.value (.object [] key :: stack)) :=
      takes_key (level + 1) key fun _ => rfl
    have own := takes_verdict (level + 1) (.object [] key :: stack) verdict distinct
    have others := takes_entries (level + 1) stack [(key, verdict.toValue)] rest distinct' (by
      intro other member
      rw [List.map_singleton, List.mem_singleton]
      rintro rfl
      exact NodePaths.has_eq_false.mp new member)
    have closed : Takes ['\x7d'] (.afterEntry (Verdict.toEntries ((key, verdict) :: rest)) stack)
        (complete (Report.toValue ((key, verdict) :: rest)) stack) := takes_mark (fun _ => rfl) fun _ => rfl
    have ended := takes_both (takes_space (new_line_blank level)) closed
    refine ⟨_, rfl, ?_⟩
    rw [List.append_assoc]
    exact takes_both (takes_both (takes_both named own) others) ended

theorem takes_entries (level : Nat) (stack : List Frame) (before : List (String × Value)) :
    ∀ report : Report, Report.hasDistinctKeys report = true → (∀ key ∈ report.map (·.1), key ∉ before.map (·.1)) →
    Takes (writeEntries level report) (.afterEntry before stack)
      (.afterEntry (before ++ Verdict.toEntries report) stack)
  | [], _, _ => by
    rw [Verdict.toEntries, List.append_nil]
    exact takes_none
  | (key, verdict) :: rest, distinct, new => by
    simp only [Report.hasDistinctKeys, Bool.and_eq_true, Bool.not_eq_true'] at distinct
    obtain ⟨⟨apart, distinct⟩, distinct'⟩ := distinct
    rw [List.map_cons, List.forall_mem_cons] at new
    have comma : Takes [','] (.afterEntry before stack) (.key before stack) :=
      takes_mark (fun _ => rfl) fun _ => rfl
    have named : Takes _ (.key before stack) (.value (.object before key :: stack)) := takes_key level key fun _ => rfl
    have own := takes_verdict level (.object before key :: stack) verdict distinct
    rw [complete, Entries.put_new new.1] at own
    have others := takes_entries level stack (before ++ [(key, verdict.toValue)]) rest distinct' (by
      intro other member
      rw [List.map_append, List.map_singleton, List.mem_append, List.mem_singleton, not_or]
      refine ⟨new.2 other member, ?_⟩
      rintro rfl
      exact NodePaths.has_eq_false.mp apart member)
    rw [List.append_assoc, List.singleton_append] at others
    exact takes_both comma (takes_both (takes_both named own) others)
end

/-! ## Texts -/

end RoundTrip
end Json
end RecordSchema
