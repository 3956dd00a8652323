import RecordSchema.Proofs.CommandVerdicts

/-! JSON in the place of a path. A source that is not the standard input is looked up as a
path before anything reads it as JSON, and the disk may refuse a path for its length alone, or
for another reason of its own, such as a missing permission. Such an answer is the system's and
not one about the source: no text is read for it, and it is no usage error. Every other answer
that is no file leaves the text to be read, whatever its length. In a tree of files the length
is refused exactly where the whole path is too long, or one of its names is and what stands
before it leads to a directory. So a long text without a slash is refused wherever it is looked
up, also if it is JSON. -/
namespace RecordSchema

open Files

variable {m : Type → Type} [Monad m]

/-- What comes of a source: the outcome of reading it, and how every run ends that asks for a
validation of it with some level of the log and has a schema that can be loaded. -/
structure Files.Disk.Settles (disk : Disk m) (input : m String) (source : String) (outcome : Except SourceError Records)
    (ends : CommandLine.Settings → Level → Validator → CommandLine.Transcript) : Prop where
  read : (readRecords disk input source).run = pure outcome
  validated : ∀ {arguments words : List String} {settings : CommandLine.Settings} {level : Level}
    {validator : Validator}, (CommandLine.expand disk arguments).run = pure (.ok words) →
    CommandLine.parse words = .ok (.validate settings) → settings.level = some level → settings.input = source →
    (Validator.ofFile disk settings.schema validatorLogger).run = pure (.ok validator) →
    CommandLine.run disk input arguments = pure (ends settings level validator)

/-- A source is read as records, and those are judged. -/
def Files.Disk.Judges (disk : Disk m) (input : m String) (source : String) (records : Records) : Prop :=
  disk.Settles input source (.ok records)
    fun settings level validator => CommandLine.judge settings level validator records

/-- A source cannot be read, and the arguments that name it are refused. -/
def Files.Disk.Refuses (disk : Disk m) (input : m String) (source : String) (error : SourceError) : Prop :=
  disk.Settles input source (.error error) fun _ _ _ => .refuse error.message

/-- A source cannot be read, and every run that names it fails. -/
def Files.Disk.Fails (disk : Disk m) (input : m String) (source : String) (error : SourceError) : Prop :=
  disk.Settles input source (.error error) fun _ _ _ => .fail (.source error)

/-- A path that is too long to be walked in a tree: it is too long as a whole, or one of its
names is and those before it lead to a directory. Absolute paths are walked where there is
nothing but the root. -/
def Files.Tree.RefusesLength (tree : Tree) (path : String) : Prop :=
  '\x00' ∉ path.toList ∧ (pathLimit ≤ octetCount path.toList ∨
    ∃ before name after, splitPath path.toList = before ++ name :: after ∧ nameLimit < octetCount name ∧
      Tree.walk (if path.toList.head? = some '/' then [] else tree) [] before = .ok .directory)

namespace LiteralSources

variable {disk : Disk m} {input : m String} {path source : String} {found : Except AccessError Entry} {tree : Tree}
  {place names : List (List Char)} {name text : List Char}

/-! ## Lengths in a tree -/

/-- Where a name that is not too long leads from a directory. -/
def step (place : List (List Char)) (name : List Char) : List (List Char) :=
  if name.isEmpty || name == here then place
  else if name == above then Tree.parent place
  else place ++ [name]

theorem disk_look (tree : Tree) (path : String) : tree.disk.look path = tree.find path := rfl

theorem walk_short (stands : tree.entry? place = some .directory) (short : ¬nameLimit < octetCount name)
    (names : List (List Char)) : tree.walk place (name :: names) = tree.walk (step place name) names := by
  rw [Tree.walk, stands, step]
  simp only [if_neg short]
  split_ifs <;> rfl

/-- The names with a meaning of their own are short. -/
theorem walk_long (stands : tree.entry? place = some .directory) (long : nameLimit < octetCount name)
    (names : List (List Char)) : tree.walk place (name :: names) = .error .nameTooLong := by
  have plain : (name.isEmpty || name == here) = false := by
    rw [Bool.or_eq_false_iff, List.isEmpty_eq_false_iff, beq_eq_false_iff_ne]
    constructor <;> rintro rfl <;> revert long <;> decide
  have below : (name == above) = false := by
    rw [beq_eq_false_iff_ne]
    rintro rfl
    revert long
    decide
  rw [Tree.walk, stands]
  simp [plain, below, long]

theorem walk_ends_on_directory (names : List (List Char)) (ends : tree.walk place names = .ok .directory) :
    tree.entry? place = some .directory := by
  cases names with
  | nil =>
    rw [Tree.walk] at ends
    split at ends
    next entry stands =>
      cases ends
      exact stands
    next => cases ends
  | cons name names =>
    rw [Tree.walk] at ends
    split at ends
    next => cases ends
    next => cases ends
    next stands => exact stands

/-- A walk finds a name too long if there is such a name that it comes to. -/
theorem walk_too_long : tree.walk place names = .error .nameTooLong ↔
    ∃ before name after, names = before ++ name :: after ∧ nameLimit < octetCount name ∧
      tree.walk place before = .ok .directory := by
  -- Each name that is short moves the place, and what is walked from there is shorter by this name.
  induction names generalizing place with
  | nil =>
    rw [Tree.walk]
    constructor
    · intro refused
      split at refused <;> cases refused
    · rintro ⟨before, name, after, split, -⟩
      exact absurd split.symm (List.append_ne_nil_of_right_ne_nil before (List.cons_ne_nil name after))
  | cons name names ih =>
    by_cases stands : tree.entry? place = some .directory
    · by_cases long : nameLimit < octetCount name
      · have arrived : tree.walk place [] = .ok .directory := by rw [Tree.walk, stands]
        exact iff_of_true (walk_long stands long names) ⟨[], name, names, rfl, long, arrived⟩
      · rw [walk_short stands long, ih]
        constructor
        · rintro ⟨before, other, after, rfl, too_long, leads⟩
          exact ⟨name :: before, other, after, rfl, too_long, (walk_short stands long before).trans leads⟩
        · rintro ⟨before, other, after, split, too_long, leads⟩
          cases before with
          | nil =>
            cases split
            exact absurd too_long long
          | cons first before =>
            cases split
            exact ⟨before, other, after, rfl, too_long, (walk_short stands long before).symm.trans leads⟩
    · refine iff_of_false (fun refused => ?_)
        (fun ⟨before, _, _, _, _, leads⟩ => stands (walk_ends_on_directory before leads))
      rw [Tree.walk] at refused
      split at refused
      next => cases refused
      next => cases refused
      next here => exact stands here

/-- The lengths that a tree refuses are those that it answers with. -/
theorem find_too_long : tree.find path = .error .nameTooLong ↔ tree.RefusesLength path := by
  rw [Tree.RefusesLength, ← walk_too_long, Tree.find]
  by_cases nul : '\x00' ∈ path.toList
  · simp [nul]
  by_cases empty : path.toList = []
  · have short : ¬pathLimit ≤ octetCount [] := by decide
    have walked : Tree.walk tree [] (splitPath []) = .ok .directory := rfl
    simp [empty, short, walked]
  by_cases long : pathLimit ≤ octetCount path.toList
  · simp [nul, empty, long]
  · by_cases absolute : path.toList.head? = some '/' <;> simp [nul, empty, long, absolute]

theorem split_whole (slashless : '/' ∉ text) : splitPath text = [text] := by
  induction text with
  | nil => rfl
  | cons c text ih =>
    rw [List.mem_cons, not_or] at slashless
    rw [splitPath, if_neg (Ne.symm slashless.1), ih slashless.2]

/-- A text without a slash is its own path, if it has more octets than a name may. -/
theorem whole_path (slashless : '/' ∉ source.toList) (long : nameLimit < octetCount source.toList) :
    normalPath source = source := by
  have written : source ≠ "" := by
    rintro rfl
    revert long
    decide
  have other : source.toList ≠ here := by
    intro same
    rw [same] at long
    revert long
    decide
  have rootless : rootMark source.toList = [] := by
    unfold rootMark
    split <;> simp_all
  have names : pathNames source.toList = [source.toList] := by
    simp [pathNames, split_whole slashless, written, other]
  simp [normalPath, rootless, names, written]

/-- Such a text is refused in every tree. -/
theorem whole_refused (slashless : '/' ∉ source.toList) (printed : '\x00' ∉ source.toList)
    (long : nameLimit < octetCount source.toList) : tree.find (normalPath source) = .error .nameTooLong := by
  rw [whole_path slashless long]
  exact find_too_long.mpr ⟨printed, .inr ⟨[], source.toList, [], split_whole slashless, long, rfl⟩⟩

/-! ## What a literal is read as -/

variable [LawfulMonad m] {outcome : Except SourceError Records} {error : SourceError} {records : Records}

theorem stops_reading {α β : Type} {first : Reading m α} (next : α → Reading m β)
    (head : first.run = pure (.error error)) : (first >>= next).run = pure (.error error) := by
  rw [ExceptT.run_bind, head, pure_bind]

theorem read_refused {refusal : AccessError} (named : source ≠ inputMark)
    (looked : disk.look (normalPath source) = pure (.error refusal)) (stops : refusal.stopsProbe = true) :
    (readRecords disk input source).run = pure (.error (.access refusal (normalPath source))) := by
  have asked : disk.isFile (normalPath source) = pure (.error refusal) := by
    simp only [Disk.isFile, looked, pure_bind, stops, if_true]
  rw [readRecords, if_neg named]
  refine stops_reading _ ?_
  change Except.mapError _ <$> disk.isFile (normalPath source) = _
  rw [asked, map_pure]
  rfl

theorem no_file_there (looked : disk.look path = pure found) (no_file : ∀ octets, found ≠ .ok (.file octets))
    (allowed : ∀ refusal, found = .error refusal → refusal.stopsProbe = false) :
    disk.isFile path = pure (.ok false) := by
  rw [Disk.isFile, looked, pure_bind]
  cases found with
  | ok entry =>
    cases entry with
    | directory => rfl
    | file octets => exact absurd rfl (no_file octets)
  | error refusal => simp only [allowed refusal rfl, Bool.false_eq_true, if_false]

theorem read_literal (named : source ≠ inputMark) (no_file : disk.isFile (normalPath source) = pure (.ok false)) :
    (readRecords disk input source).run = pure (Records.ofLiteral source) := by
  rw [readRecords, if_neg named]
  exact CommandVerdicts.reads_both (CommandVerdicts.probe_file no_file) rfl

theorem load_reads {settings : CommandLine.Settings} {validator : Validator}
    (loaded : (Validator.ofFile disk settings.schema validatorLogger).run = pure (.ok validator))
    (read : (readRecords disk input settings.input).run = pure outcome) :
    (CommandLine.load disk input settings).run = pure (outcome.map (validator, ·)) := by
  refine CommandVerdicts.reads_both loaded ?_
  cases outcome with
  | error error => exact stops_reading _ read
  | ok records => exact CommandVerdicts.reads_both read rfl

theorem run_validates {arguments words : List String} {settings : CommandLine.Settings} {level : Level}
    {validator : Validator} (expanded : (CommandLine.expand disk arguments).run = pure (.ok words))
    (parsed : CommandLine.parse words = .ok (.validate settings)) (levelled : settings.level = some level)
    (loaded : (Validator.ofFile disk settings.schema validatorLogger).run = pure (.ok validator))
    (read : (readRecords disk input settings.input).run = pure outcome) :
    CommandLine.run disk input arguments = pure (match outcome with
      | .ok records => CommandLine.judge settings level validator records
      | .error error => if error.isSystem then .fail (.source error) else .refuse error.message) := by
  rw [CommandLine.run, expanded, pure_bind]
  change CommandLine.perform disk input words = _
  rw [CommandLine.perform, parsed]
  change CommandLine.validate disk input settings = _
  rw [CommandLine.validate, levelled]
  simp only [load_reads loaded read, pure_bind]
  cases outcome <;> rfl

/-- Records that are read are judged. -/
theorem judges_read (read : (readRecords disk input source).run = pure (.ok records)) :
    disk.Judges input source records where
  read := read
  validated := by
    rintro arguments words settings level validator expanded parsed levelled rfl loaded
    exact run_validates expanded parsed levelled loaded read

/-- An error about what was read refuses the arguments. -/
theorem refuses_unread (read : (readRecords disk input source).run = pure (.error error))
    (own : error.isSystem = false) : disk.Refuses input source error where
  read := read
  validated := by
    rintro arguments words settings level validator expanded parsed levelled rfl loaded
    rw [run_validates expanded parsed levelled loaded read]
    simp only [own, Bool.false_eq_true, if_false]

/-- An error of the system fails the run. -/
theorem fails_unread (read : (readRecords disk input source).run = pure (.error error))
    (system : error.isSystem = true) : disk.Fails input source error where
  read := read
  validated := by
    rintro arguments words settings level validator expanded parsed levelled rfl loaded
    rw [run_validates expanded parsed levelled loaded read]
    simp only [system, if_true]

/-- What comes of a source that is not the standard input and whose path leads to no file.
If the disk answers that the path is too long, or refuses it with a number that does not count
as a path to nowhere, reading ends with that answer, whatever the text holds, and a run that
names it fails without an exit code. With any other answer the text is read as JSON, however
long it is: if it is well formed, the items of an array or the one value are judged; a text
that is no JSON, or has an integer with too many digits, makes a run refuse its arguments. A
tree of files answers that the path is too long exactly where it refuses its length. -/
theorem literal_read_unless_too_long (named : source ≠ inputMark)
    (looked : disk.look (normalPath source) = pure found) (no_file : ∀ octets, found ≠ .ok (.file octets)) :
    (found = .error .nameTooLong → disk.Fails input source (.access .nameTooLong (normalPath source))) ∧
    (∀ number words, found = .error (.refused number words) → number ∉ toleratedNumbers →
      disk.Fails input source (.access (.refused number words) (normalPath source))) ∧
    (found ≠ .error .nameTooLong →
      (∀ number words, found = .error (.refused number words) → number ∈ toleratedNumbers) →
      (∀ v, Json.read source.toList = .ok v → disk.Judges input source (Records.ofValue v)) ∧
      (∀ complaint, Json.read source.toList = .error (.malformed complaint) →
        disk.Refuses input source (.notASource source)) ∧
      (∀ count, Json.read source.toList = .error (.tooManyDigits count) →
        disk.Refuses input source (.tooManyDigits count))) ∧
    ∀ tree : Tree, tree.find (normalPath source) = .error .nameTooLong ↔ tree.RefusesLength (normalPath source) := by
  refine ⟨?_, ?_, fun short tolerated => ?_, fun tree => find_too_long⟩
  · rintro rfl
    exact fails_unread (read_refused named looked rfl) rfl
  · rintro number words rfl untolerated
    have stops : (AccessError.refused number words).stopsProbe = true := by
      simpa [AccessError.stopsProbe] using untolerated
    exact fails_unread (read_refused named looked stops) rfl
  · have allowed (refusal : AccessError) (answer : found = .error refusal) : refusal.stopsProbe = false := by
      cases refusal with
      | nameTooLong => exact absurd answer short
      | refused number words => simpa [AccessError.stopsProbe] using tolerated number words answer
      | notFound | notADirectory | isADirectory | embeddedNul => rfl
    have read : (readRecords disk input source).run = pure (Records.ofLiteral source) :=
      read_literal named (no_file_there looked no_file allowed)
    rw [Records.ofLiteral] at read
    refine ⟨fun v spelt => ?_, fun complaint unspelt => ?_, fun count unspelt => ?_⟩
    · rw [spelt] at read
      exact judges_read read
    · rw [unspelt] at read
      exact refuses_unread read rfl
    · rw [unspelt] at read
      exact refuses_unread read rfl

/-- A literal with a slash in it: what stands before the slash is looked up and not found, so
the text is read, and its two items are judged. -/
theorem literal_with_slash_judged :
    let octets := "\x7b\"name\": \"string\"\x7d".toList.map fun c => UInt8.ofNat c.toNat
    let disk := Tree.disk [(["s.json".toList], .file octets)]
    let source := "[\x7b\"name\": \"a/b\"\x7d, 5]"
    source ≠ inputMark ∧ disk.look (normalPath source) = (.error .notFound : Except AccessError Entry) ∧
    Json.read source.toList = .ok (.list [.mapping .plain [("name", .text "a/b")], .int 5]) ∧
    disk.Judges "" source ⟨[.mapping .plain [("name", .text "a/b")], .int 5], true⟩ := by
  intro octets disk source
  have named : source ≠ inputMark := by decide
  have looked : disk.look (normalPath source) = (.error .notFound : Except AccessError Entry) := by
    dsimp only [source]
    rfl
  have spelt : Json.read source.toList = .ok (.list [.mapping .plain [("name", .text "a/b")], .int 5]) := by
    dsimp only [source]
    rfl
  exact ⟨named, looked, spelt, ((literal_read_unless_too_long named looked nofun).2.2.1 nofun nofun).1 _ spelt⟩

/-- Without a slash, a text of more octets than a name may have is read in no tree. -/
theorem whole_unread {input : String} (slashless : '/' ∉ source.toList) (printed : '\x00' ∉ source.toList)
    (long : nameLimit < octetCount source.toList) :
    (readRecords tree.disk input source).run = .error (.access .nameTooLong source) := by
  have named : source ≠ inputMark := by
    rintro rfl
    revert long
    decide
  have looked : tree.disk.look (normalPath source) = .error .nameTooLong := by
    rw [disk_look]
    exact whole_refused slashless printed long
  have unread : (readRecords tree.disk input source).run =
      pure (.error (.access .nameTooLong (normalPath source))) := read_refused named looked rfl
  rw [whole_path slashless long] at unread
  exact unread

/-- An array of one text, as it is written, is read. -/
theorem listed_text_read (s : String) : Json.read ('[' :: (Json.writeString s ++ [']'])) = .ok (.list [.text s]) := by
  have opened : Json.Takes ['['] (.value []) (.firstItem []) := Json.RoundTrip.takes_mark (fun _ => rfl) fun _ => rfl
  have item : Json.Takes (Json.writeString s) (.firstItem []) (.afterItem [.text s] []) :=
    Json.RoundTrip.takes_token (Json.RoundTrip.string_tokenizes s) fun _ => rfl
  have closed : Json.Takes [']'] (.afterItem [.text s] []) (.done (.list [.text s])) :=
    Json.RoundTrip.takes_mark (fun _ => rfl) fun _ => rfl
  have all : Json.readTokens (.value []) (Json.tokens ('[' :: (Json.writeString s ++ [']']))) =
      .ok (.done (.list [.text s])) := by
    have taken := Json.RoundTrip.takes_both opened (Json.RoundTrip.takes_both item closed) 0 []
    rw [List.append_nil] at taken
    exact taken
  have chars_read : Json.readChars ('[' :: (Json.writeString s ++ [']'])) = .ok (.list [.text s]) := by
    rw [Json.readChars, all]
    rfl
  rw [Json.read, chars_read]
  rfl

/-- An array with one text of 252 letters in it, on an empty disk: it is JSON and the path of
nothing, and still it is not read. -/
theorem long_literal_unread :
    let letters := List.replicate 252 'x'
    let source := String.ofList ('[' :: '\x22' :: (letters ++ ['\x22', ']']))
    let disk := Tree.disk []
    source ≠ inputMark ∧ (∀ octets, disk.look (normalPath source) ≠ .ok (.file octets)) ∧
    Json.read source.toList = .ok (.list [.text (String.ofList letters)]) ∧
    (readRecords disk "" source).run = .error (.access .nameTooLong source) := by
  intro letters source disk
  have spelling : source.toList = '[' :: '\x22' :: (letters ++ ['\x22', ']']) := String.toList_ofList
  have slashless : '/' ∉ source.toList := by rw [spelling]; decide +kernel
  have printed : '\x00' ∉ source.toList := by rw [spelling]; decide +kernel
  have long : nameLimit < octetCount source.toList := by rw [spelling]; decide +kernel
  have spelt : Json.read source.toList = .ok (.list [.text (String.ofList letters)]) := by
    have plain : Json.escapeText false letters = letters := by decide +kernel
    have written : source.toList = '[' :: (Json.writeString (String.ofList letters) ++ [']']) := by
      rw [spelling, Json.writeString, String.toList_ofList, plain, List.cons_append, List.append_assoc]
      rfl
    rw [written]
    exact listed_text_read _
  clear_value source
  refine ⟨?_, fun octets found => ?_, spelt, whole_unread slashless printed long⟩
  · rintro rfl
    cases spelling
  · rw [disk_look, whole_refused slashless printed long] at found
    cases found

end LiteralSources
end RecordSchema
