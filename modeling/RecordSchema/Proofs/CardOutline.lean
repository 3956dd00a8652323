import Mathlib.Data.List.DropRight
import RecordSchema.Proofs.SchemaWalk
import RecordSchema.Walkthrough

/-! Cards read back. A card shows the leaves of a report before its nested fields, trims
its end at every level, and tells how deep a section lies by nothing but the marks
before its heading. Still nothing is lost. Read line by line, a card gives the items and
headings of its report in order, and a section reaches up to the next heading that is
not below its own. So reports with one card have one outline, which is what the card
shows of them. -/
namespace RecordSchema

/-- What a card shows of a report: the leaves in order, and then the nested fields in
order, each with the text of its heading and with what is shown below it. -/
inductive Outline where
  | of (items : List (String × Bool)) (sections : List (String × Outline))

/-- The leaves of a report itself, not those of the reports in it. -/
def Report.ownLeaves (report : Report) : List (String × Bool) :=
  report.filterMap fun (key, verdict) => match verdict with
    | .leaf passed => some (key, passed)
    | .branch _ => none

mutual
/-- The section of an outline for one field, none for a leaf. -/
def Verdict.outlineSections (key : String) : Verdict → List (String × Outline)
  | .leaf _ => []
  | .branch fields => [(headingText key, .of (Report.ownLeaves fields) (Report.outlineSections fields))]
termination_by structural verdict => verdict

/-- The sections of an outline for the fields of a report. -/
def Report.outlineSections : List (String × Verdict) → List (String × Outline)
  | [] => []
  | (key, verdict) :: rest => verdict.outlineSections key ++ Report.outlineSections rest
termination_by structural fields => fields
end

/-- The outline of a report. -/
def Report.outline (report : Report) : Outline := .of report.ownLeaves (outlineSections report)

mutual
/-- Whether the keys at and below a field can be told from a card: none has a line
break, and that of a leaf is not empty and does not end in white space. -/
def Verdict.isLegible (key : String) : Verdict → Bool
  | .leaf _ => !key.toList.contains '\n' && !key.isEmpty && !key.toList.getLast?.any Text.isBlank
  | .branch fields => !key.toList.contains '\n' && Report.isLegible fields
termination_by structural verdict => verdict

/-- Whether all keys of a report can be told from a card. -/
def Report.isLegible : List (String × Verdict) → Bool
  | [] => true
  | (key, verdict) :: rest => verdict.isLegible key && Report.isLegible rest
termination_by structural fields => fields
end

/-- The lines of a card. -/
def cardLines (card : String) : List (List Char) := card.toList.splitOn '\n'

/-- How the item of a leaf that failed begins. -/
def failedBox : List Char := "- [ ] ".toList

/-- What a line of a card stands for. -/
inductive Mark where
  | item (key : String) (passed : Bool)
  | heading (level : Nat) (text : String)

namespace Mark

/-- The mark that a line is. Empty lines and the line for an empty body are none. -/
def ofLine? : List Char → Option Mark
  | '-' :: ' ' :: '[' :: 'x' :: ']' :: ' ' :: key => some (.item (String.ofList key) true)
  | '-' :: ' ' :: '[' :: ' ' :: ']' :: ' ' :: key => some (.item (String.ofList key) false)
  | '#' :: rest =>
    some (.heading ((rest.takeWhile (· == '#')).length + 1) (String.ofList ((rest.dropWhile (· == '#')).drop 1)))
  | _ => none

/-- The marks of a text, line by line. -/
def ofText (text : List Char) : List Mark := (text.splitOn '\n').filterMap ofLine?

/-- Whether a mark belongs to a section with a heading of some level. -/
def isBelow (level : Nat) : Mark → Bool
  | .item _ _ => true
  | .heading other _ => level < other

/-- Whether a mark is the item of a leaf that failed. -/
def isFailure : Mark → Bool
  | .item _ passed => !passed
  | .heading _ _ => false

end Mark

mutual
/-- The marks of an outline whose sections have headings of some level. -/
def Outline.marks (level : Nat) : Outline → List Mark
  | .of items sections =>
    items.map (fun (key, passed) => .item key passed) ++ Outline.sectionMarks level sections
termination_by structural outline => outline

/-- The marks of sections with headings of some level. -/
def Outline.sectionMarks (level : Nat) : List (String × Outline) → List Mark
  | [] => []
  | (text, outline) :: rest => .heading level text :: (outline.marks (level + 1) ++ Outline.sectionMarks level rest)
termination_by structural sections => sections
end

namespace CardOutline

/-- Parts of a card that end in a text which trimming leaves as it is, or in an empty
part after such a text. -/
def Closes (parts : List String) : Prop :=
  ∃ before last, (parts = before ++ [last] ∨ parts = before ++ [last, ""]) ∧ last ≠ "" ∧
    Text.trimEnd last.toList = last.toList

variable {key : String} {depth bound : Nat} {level : Int} {front back text : List Char} {parts : List String}
  {report : Report}

/-! ## From marks to the outline -/

mutual
theorem marks_below : ∀ (outline : Outline) (depth : Nat), bound < depth →
    ∀ mark ∈ outline.marks depth, mark.isBelow bound = true
  | .of items sections, depth, deeper, mark, member => by
    rw [Outline.marks, List.mem_append] at member
    rcases member with own | inside
    · obtain ⟨item, -, rfl⟩ := List.mem_map.mp own
      rfl
    · exact section_marks_below sections depth deeper mark inside

theorem section_marks_below : ∀ (sections : List (String × Outline)) (depth : Nat), bound < depth →
    ∀ mark ∈ Outline.sectionMarks depth sections, mark.isBelow bound = true
  | [], _, _, _, member => by cases member
  | (text, outline) :: rest, depth, deeper, mark, member => by
    rw [Outline.sectionMarks, List.mem_cons, List.mem_append] at member
    rcases member with rfl | inside | later
    · simpa [Mark.isBelow] using deeper
    · exact marks_below outline (depth + 1) (by omega) mark inside
    · exact section_marks_below rest depth deeper mark later
end

/-- The first mark of sections is a heading of their own level. -/
theorem section_marks_start (sections : List (String × Outline)) :
    ∀ mark ∈ (Outline.sectionMarks depth sections).head?, mark.isBelow depth = false := by
  intro mark first
  cases sections with
  | nil => cases first
  | cons field rest =>
    cases first
    simp [Mark.isBelow]

/-- What lies below a level ends where the first mark that does not begins. -/
theorem below_ends {own other rest rest' : List Mark} (below : ∀ mark ∈ own, mark.isBelow depth = true)
    (below' : ∀ mark ∈ other, mark.isBelow depth = true) (start : ∀ mark ∈ rest.head?, mark.isBelow depth = false)
    (start' : ∀ mark ∈ rest'.head?, mark.isBelow depth = false) (same : own ++ rest = other ++ rest') :
    own = other ∧ rest = rest' := by
  -- Were one of the two stretches longer, its next mark would be the first one of the other rest.
  have longer {following beyond : List Mark} (inside : ∀ mark ∈ beyond, mark.isBelow depth = true)
      (outside : ∀ mark ∈ (beyond ++ following).head?, mark.isBelow depth = false) : beyond = [] := by
    cases beyond with
    | nil => rfl
    | cons mark more =>
      have under := inside mark List.mem_cons_self
      have not_under := outside mark rfl
      rw [under] at not_under
      cases not_under
  rcases List.append_eq_append_iff.mp same with ⟨beyond, rfl, rfl⟩ | ⟨beyond, rfl, rfl⟩
  · have none_beyond : beyond = [] :=
      longer (fun mark member => below' mark (List.mem_append_right _ member)) start
    simp [none_beyond]
  · have none_beyond : beyond = [] :=
      longer (fun mark member => below mark (List.mem_append_right _ member)) start'
    simp [none_beyond]

theorem items_told {items items' : List (String × Bool)}
    (same : items.map (fun (key, passed) => Mark.item key passed) = items'.map fun (key, passed) => .item key passed) :
    items = items' := by
  refine List.map_injective_iff.mpr ?_ same
  rintro ⟨key, passed⟩ ⟨key', passed'⟩ alike
  cases alike
  rfl

mutual
/-- The marks of an outline tell it. -/
theorem outline_told : ∀ (outline other : Outline) (depth : Nat),
    outline.marks depth = other.marks depth → outline = other
  | .of items sections, .of items' sections', depth, same => by
    rw [Outline.marks, Outline.marks] at same
    have below (items : List (String × Bool)) :
        ∀ mark ∈ items.map (fun (key, passed) => Mark.item key passed), mark.isBelow depth = true := by
      intro mark member
      obtain ⟨item, -, rfl⟩ := List.mem_map.mp member
      rfl
    obtain ⟨own, others⟩ := below_ends (below items) (below items') (section_marks_start sections)
      (section_marks_start sections') same
    rw [items_told own, sections_told sections sections' depth others]

theorem sections_told : ∀ (sections others : List (String × Outline)) (depth : Nat),
    Outline.sectionMarks depth sections = Outline.sectionMarks depth others → sections = others
  | [], [], _, _ => rfl
  | [], (text, outline) :: rest, _, same => by cases same
  | (text, outline) :: rest, [], _, same => by cases same
  | (text, outline) :: rest, (text', outline') :: rest', depth, same => by
    rw [Outline.sectionMarks, Outline.sectionMarks, List.cons.injEq, Mark.heading.injEq] at same
    obtain ⟨⟨-, rfl⟩, below⟩ := same
    obtain ⟨inside, later⟩ := below_ends (marks_below outline (depth + 1) (by omega))
      (marks_below outline' (depth + 1) (by omega)) (section_marks_start rest) (section_marks_start rest') below
    rw [outline_told outline outline' (depth + 1) inside, sections_told rest rest' depth later]
end

/-! ## From lines to marks -/

@[simp] theorem marks_of_nothing : Mark.ofText [] = [] := rfl

theorem marks_of_break : Mark.ofText (front ++ '\n' :: back) = Mark.ofText front ++ Mark.ofText back := by
  have broken : (front ++ '\n' :: back).splitOn '\n' = front.splitOn '\n' ++ back.splitOn '\n' :=
    List.splitOnP_append_cons front back (beq_self_eq_true '\n')
  rw [Mark.ofText, broken, List.filterMap_append]
  rfl

theorem marks_of_line (unbroken : '\n' ∉ text) : Mark.ofText text = (Mark.ofLine? text).toList := by
  rw [Mark.ofText, List.splitOn_eq_singleton unbroken, List.filterMap_cons, List.filterMap_nil]
  cases Mark.ofLine? text <;> rfl

/-- The marks of parts under one another are those of the parts in order. -/
theorem marks_of_parts (parts : List String) :
    Mark.ofText ("\n".intercalate parts).toList = parts.flatMap fun part => Mark.ofText part.toList := by
  induction parts with
  | nil => simp
  | cons part rest ih =>
    by_cases last : rest = []
    · simp [last]
    · have joined : ("\n".intercalate (part :: rest)).toList =
          part.toList ++ '\n' :: ("\n".intercalate rest).toList := by
        simp [String.intercalate_cons_of_ne_nil last]
      rw [joined, marks_of_break, ih, List.flatMap_cons]

/-! ## Headings -/

theorem char_unbroken {code : Nat} (later : 10 < code) : Char.ofNat code ≠ '\n' := by
  intro same
  unfold Char.ofNat at same
  by_cases valid : code.isValidChar
  · rw [dif_pos valid] at same
    have ten : code = 10 := congrArg Char.toNat same
    omega
  · rw [dif_neg valid] at same
    cases same

/-- A case mapping whose images all lie beyond the line break makes no line break of
another character. -/
theorem map_case_unbroken {sequences : List (Nat × List Nat)} {runs : List Text.CaseRun} {c : Char}
    (listed : (sequences.all fun image => image.2.all (10 < ·)) = true)
    (covered : (runs.all fun run => 10 < run.image) = true) (other : c ≠ '\n') :
    '\n' ∉ Text.mapCase sequences runs c := by
  rw [List.all_eq_true] at listed covered
  unfold Text.mapCase
  cases found : sequences.lookup c.toNat with
  | some image =>
    intro inside
    obtain ⟨code, member, same⟩ := List.mem_map.mp inside
    obtain ⟨before, after, split, -⟩ := List.lookup_eq_some_iff.mp found
    have entry := listed (c.toNat, image) (by simp [split])
    have later : 10 < code := by simpa using List.all_eq_true.mp entry code member
    exact char_unbroken later same
  | none =>
    intro inside
    have same := List.mem_singleton.mp inside
    cases mapped : runs.findSome? (·.map? c) with
    | none =>
      rw [mapped] at same
      exact other same.symm
    | some image =>
      rw [mapped, Option.getD_some] at same
      obtain ⟨run, member, hit⟩ := List.exists_of_findSome?_eq_some mapped
      have later : 10 < run.image := by simpa using covered run member
      unfold Text.CaseRun.map? at hit
      split at hit
      · cases hit
        exact char_unbroken (by omega) same.symm
      · cases hit

theorem title_case_unbroken {c : Char} (other : c ≠ '\n') : '\n' ∉ Text.titleCase c :=
  map_case_unbroken (by decide) (by decide) other

theorem lower_between_unbroken {c : Char} {before after : List Char} (other : c ≠ '\n') :
    '\n' ∉ Text.lowerBetween before c after := by
  unfold Text.lowerBetween
  split
  · split <;> decide
  · exact map_case_unbroken (by decide) (by decide) other

theorem title_unbroken (before : List Char) (unbroken : '\n' ∉ text) : '\n' ∉ Text.titleAfter before text := by
  induction text generalizing before with
  | nil => exact unbroken
  | cons c after ih =>
    rw [List.mem_cons, not_or] at unbroken
    have other : c ≠ '\n' := Ne.symm unbroken.1
    cases before with
    | nil =>
      rw [Text.titleAfter, List.mem_append, not_or]
      exact ⟨title_case_unbroken other, ih [c] unbroken.2⟩
    | cons previous earlier =>
      rw [Text.titleAfter, List.mem_append, not_or]
      refine ⟨?_, ih (c :: previous :: earlier) unbroken.2⟩
      split
      · exact lower_between_unbroken other
      · exact title_case_unbroken other

theorem heading_text_unbroken (unbroken : '\n' ∉ key.toList) : '\n' ∉ (headingText key).toList := by
  rw [headingText, String.toList_ofList]
  apply title_unbroken
  intro inside
  obtain ⟨c, member, same⟩ := List.mem_map.mp inside
  split at same
  · cases same
  · exact unbroken (same ▸ member)

/-! ## Lines of a card -/

theorem item_marks {passed : Bool} (unbroken : '\n' ∉ key.toList) :
    Mark.ofText (leafItem key passed).toList = [.item key passed] := by
  have whole : '\n' ∉ (leafItem key passed).toList := by
    cases passed <;> simpa [leafItem] using unbroken
  rw [marks_of_line whole]
  cases passed <;> simp [leafItem, Mark.ofLine?]

theorem heading_marks (headed : 1 ≤ level) (unbroken : '\n' ∉ key.toList) :
    Mark.ofText (headingLine level key).toList = [.heading level.toNat (headingText key)] := by
  obtain ⟨depth, rfl⟩ : ∃ depth : Nat, level = depth + 1 := ⟨(level - 1).toNat, by omega⟩
  have line : (headingLine (depth + 1) key).toList =
      '#' :: (List.replicate depth '#' ++ ' ' :: (headingText key).toList) := by
    simp [headingLine, List.replicate_succ]
  have whole : '\n' ∉ (headingLine (depth + 1) key).toList := by
    simpa [line] using heading_text_unbroken unbroken
  rw [marks_of_line whole, line, Mark.ofLine?]
  simp [List.takeWhile_append_of_pos, List.dropWhile_append_of_pos]

theorem empty_body_marks : Mark.ofText emptyBody.toList = [] := by
  rw [marks_of_line (by decide)]
  rfl

/-! ## The end of a card -/

/-- A text that trimming leaves as it is and that is not empty shields what stands before it. -/
theorem trim_kept (filled : back ≠ []) (firm : Text.trimEnd back = back) :
    Text.trimEnd (front ++ back) = front ++ back := by
  have last_kept := List.rdropWhile_eq_self_iff.mp firm filled
  refine List.rdropWhile_eq_self_iff.mpr fun some => ?_
  rw [List.getLast_append_of_ne_nil some filled]
  exact last_kept

theorem trim_break : Text.trimEnd (text ++ ['\n']) = Text.trimEnd text :=
  List.rdropWhile_concat_pos _ _ _ (by decide)

theorem trim_again : Text.trimEnd (Text.trimEnd text) = Text.trimEnd text := List.rdropWhile_idempotent _ _

theorem last_part_ends (before : List String) (last : String) :
    ∃ earlier, ("\n".intercalate (before ++ [last])).toList = earlier ++ last.toList := by
  by_cases first : before = []
  · exact ⟨[], by simp [first]⟩
  · refine ⟨("\n".intercalate before).toList ++ ['\n'], ?_⟩
    rw [String.intercalate_append_of_ne_nil first (by simp)]
    simp

theorem closes_append (others : List String) (closes : Closes parts) : Closes (others ++ parts) := by
  obtain ⟨before, last, shape, filled, firm⟩ := closes
  refine ⟨others ++ before, last, ?_, filled, firm⟩
  rcases shape with rfl | rfl
  · exact .inl (by simp)
  · exact .inr (by simp)

/-- Trimming takes no mark off parts that close. -/
theorem closed_marks (closes : Closes parts) : Mark.ofText (Text.trimEnd ("\n".intercalate parts).toList) =
    parts.flatMap fun part => Mark.ofText part.toList := by
  obtain ⟨before, last, shape, filled, firm⟩ := closes
  obtain ⟨earlier, whole⟩ := last_part_ends before last
  have kept : Text.trimEnd (earlier ++ last.toList) = earlier ++ last.toList :=
    trim_kept (by simpa using filled) firm
  rcases shape with rfl | rfl
  · rw [whole, kept, ← whole, marks_of_parts]
  · have broken : ("\n".intercalate (before ++ [last, ""])).toList = earlier ++ last.toList ++ ['\n'] := by
      rw [← List.singleton_append, ← List.append_assoc, String.intercalate_append_of_ne_nil (by simp) (by simp),
        ← whole]
      simp
    rw [broken, trim_break, kept, ← whole, marks_of_parts]
    simp

/-- The marks of a card are those of its items and then those of its section lines. -/
theorem card_of_marks {items lines : List String} (items_close : items = [] ∨ Closes items)
    (lines_close : lines = [] ∨ Closes lines) : Mark.ofText (cardOf items lines).toList =
      (items ++ lines).flatMap fun part => Mark.ofText part.toList := by
  rw [cardOf, String.toList_ofList]
  rcases lines_close with rfl | closes
  · rcases items_close with rfl | closes
    · rfl
    · simpa using closed_marks closes
  · rw [closed_marks (closes_append _ closes)]
    split <;> simp

/-! ## From a report to its card -/

theorem item_lines (report : Report) :
    report.leafItems = report.ownLeaves.map fun (key, passed) => leafItem key passed := by
  induction report using Report.induction with
  | nil => rfl
  | leaf key passed rest ih => exact congrArg (leafItem key passed :: ·) ih
  | branch key inner rest _ ih => exact ih

/-- The leaves of a legible report have legible keys. -/
theorem leaves_legible (report : Report) (legible : Report.isLegible report = true) :
    ∀ leaf ∈ report.ownLeaves, '\n' ∉ leaf.1.toList ∧ leaf.1 ≠ "" ∧ Text.trimEnd leaf.1.toList = leaf.1.toList := by
  induction report using Report.induction with
  | nil => exact fun leaf member => nomatch member
  | leaf key passed rest ih =>
    rw [Report.isLegible, Bool.and_eq_true] at legible
    obtain ⟨own, others⟩ := legible
    rw [Verdict.isLegible, Bool.and_eq_true, Bool.and_eq_true] at own
    obtain ⟨⟨unbroken, filled⟩, firm⟩ := own
    refine List.forall_mem_cons.mpr ⟨⟨by simpa using unbroken, by simpa using filled, ?_⟩, ih others⟩
    refine List.rdropWhile_eq_self_iff.mpr fun some => ?_
    simpa [List.getLast?_eq_some_getLast some] using firm
  | branch key inner rest _ ih =>
    rw [Report.isLegible, Bool.and_eq_true] at legible
    exact ih legible.2

theorem items_close (report : Report) (legible : Report.isLegible report = true) :
    report.leafItems = [] ∨ Closes report.leafItems := by
  rw [item_lines]
  rcases List.eq_nil_or_concat report.ownLeaves with none_left | ⟨before, ⟨key, passed⟩, split⟩
  · exact .inl (by simp [none_left])
  · obtain ⟨-, filled, firm⟩ := leaves_legible report legible (key, passed) (by simp [split])
    have box : (leafItem key passed).toList = (if passed then "- [x] " else "- [ ] ").toList ++ key.toList := by
      simp [leafItem]
    refine .inr ⟨before.map fun (key, passed) => leafItem key passed, leafItem key passed, .inl (by simp [split]), ?_, ?_⟩
    · cases passed <;> simp [leafItem]
    · rw [box]
      exact trim_kept (by simpa using filled) firm

theorem item_lines_marks (report : Report) (legible : Report.isLegible report = true) :
    (report.leafItems.flatMap fun part => Mark.ofText part.toList) =
      report.ownLeaves.map fun (key, passed) => .item key passed := by
  rw [item_lines, List.flatMap_map, List.map_eq_flatMap]
  refine List.flatMap_congr fun leaf member => ?_
  exact item_marks (leaves_legible report legible leaf member).1

/-- The lines of a section are its heading, its body and an empty line. An empty body has
a line in its place, which is no mark either. -/
theorem branch_lines (key : String) (inner : Report) (level : Int) : ∃ body,
    Report.sectionLines level key (.branch inner) = [headingLine level key, body, ""] ∧ body ≠ "" ∧
      Text.trimEnd body.toList = body.toList ∧ Mark.ofText body.toList = Mark.ofText (inner.card (level + 1)).toList := by
  by_cases empty : inner.card (level + 1) = ""
  · refine ⟨emptyBody, ?_, by decide, by decide, ?_⟩
    · rw [Report.card] at empty
      simp [Report.sectionLines, empty]
    · rw [empty, empty_body_marks]
      rfl
  · refine ⟨inner.card (level + 1), ?_, empty, ?_, rfl⟩
    · rw [Report.card] at empty ⊢
      simp [Report.sectionLines, empty]
    · rw [Report.card, cardOf, String.toList_ofList]
      exact trim_again

theorem sections_close (report : Report) (level : Int) :
    Report.sections level report = [] ∨ Closes (Report.sections level report) := by
  induction report using Report.induction generalizing level with
  | nil => exact .inl rfl
  | leaf key passed rest ih => exact ih level
  | branch key inner rest _ ih =>
    right
    rw [Report.sections]
    rcases ih level with none_left | closes
    · obtain ⟨body, lines, filled, firm, -⟩ := branch_lines key inner level
      rw [none_left, List.append_nil, lines]
      exact ⟨[headingLine level key], body, .inr rfl, filled, firm⟩
    · exact closes_append _ closes

/-- A card has the marks of the outline if its section lines have those of the sections. -/
theorem marks_of_card (report : Report) (legible : Report.isLegible report = true)
    (sections : ((Report.sections level report).flatMap fun part => Mark.ofText part.toList) =
      Outline.sectionMarks level.toNat (Report.outlineSections report)) :
    Mark.ofText (report.card level).toList = report.outline.marks level.toNat := by
  rw [Report.card, card_of_marks (items_close report legible) (sections_close report level), List.flatMap_append,
    item_lines_marks report legible, sections]
  rfl

/-- The section lines of a legible report have the marks of its sections. -/
theorem section_lines_marks (report : Report) (legible : Report.isLegible report = true) (level : Int)
    (headed : 1 ≤ level) : ((Report.sections level report).flatMap fun part => Mark.ofText part.toList) =
      Outline.sectionMarks level.toNat (Report.outlineSections report) := by
  induction report using Report.induction generalizing level with
  | nil => rfl
  | leaf key passed rest ih =>
    rw [Report.isLegible, Bool.and_eq_true] at legible
    exact ih legible.2 level headed
  | branch key inner rest inside after =>
    rw [Report.isLegible, Bool.and_eq_true, Verdict.isLegible, Bool.and_eq_true] at legible
    obtain ⟨⟨unbroken, legible_inside⟩, legible_after⟩ := legible
    have deeper : (level + 1).toNat = level.toNat + 1 := by omega
    have body := marks_of_card inner legible_inside (inside legible_inside (level + 1) (by omega))
    rw [deeper] at body
    obtain ⟨text, lines, -, -, shown⟩ := branch_lines key inner level
    have newline_free : '\n' ∉ key.toList := by simpa using unbroken
    have heading := heading_marks headed newline_free
    rw [Report.sections, lines, List.flatMap_append, after legible_after level headed]
    rw [body] at shown
    simp [heading, shown, Report.outlineSections, Verdict.outlineSections, Outline.sectionMarks, Report.outline]

theorem card_marks (report : Report) (legible : Report.isLegible report = true) (headed : 1 ≤ level) :
    Mark.ofText (report.card level).toList = report.outline.marks level.toNat :=
  marks_of_card report legible (section_lines_marks report legible level headed)

/-! ## Failures -/

theorem line_fails (line : List Char) :
    failedBox <+: line ↔ ∃ mark, Mark.ofLine? line = some mark ∧ mark.isFailure = true := by
  constructor
  · rintro ⟨key, rfl⟩
    exact ⟨.item (String.ofList key) false, rfl, rfl⟩
  · rintro ⟨mark, read, failed⟩
    unfold Mark.ofLine? at read
    split at read
    · cases read
      cases failed
    · exact ⟨_, rfl⟩
    · cases read
      cases failed
    · cases read

/-- The leaves of a report that fail are the failures among the marks of its outline. -/
theorem outline_fails (report : Report) (separator path : String) (depth : Nat) :
    (Report.leavesBelow separator path report).any (!·.2) = (report.outline.marks depth).any Mark.isFailure := by
  have items (leaves : List (String × Bool)) :
      (leaves.map fun (key, passed) => Mark.item key passed).any Mark.isFailure = leaves.any (!·.2) := by
    rw [List.any_map]
    rfl
  induction report using Report.induction generalizing path depth with
  | nil => rfl
  | leaf key passed rest ih =>
    have later := ih path depth
    rw [Report.outline, Outline.marks, List.any_append, items] at later ⊢
    rw [Report.leavesBelow, Verdict.leaves, List.any_append, later]
    simp [Report.ownLeaves, Report.outlineSections, Verdict.outlineSections, Bool.or_assoc]
  | branch key inner rest inside after =>
    have below := inside (extendPath separator path key) (depth + 1)
    have later := after path depth
    rw [Report.outline, Outline.marks, List.any_append, items] at later ⊢
    rw [Report.leavesBelow, Verdict.leaves, List.any_append, below, later]
    simp [Report.ownLeaves, Report.outlineSections, Verdict.outlineSections, Outline.sectionMarks, Mark.isFailure,
      Report.outline, Bool.or_left_comm]

/-- A card tells the outline of its report, at every level of headings that has a mark.
Where no key has a line break, and no key of a leaf is empty or ends in white space,
reports with one card have one outline: the same leaves with the same outcomes in the
same order, and the same titled sections, each with the same outline again. And a report
is valid exactly if no line of its card is an item with an empty box. -/
theorem card_tells_outline {level : Int} (headed : 1 ≤ level) {report : Report}
    (legible : Report.isLegible report = true) :
    (∀ other : Report, Report.isLegible other = true → report.card level = other.card level →
      report.outline = other.outline) ∧
    (report.isValid = true ↔ ∀ line ∈ cardLines (report.card level), ¬ failedBox <+: line) := by
  have marks := card_marks report legible headed
  constructor
  · intro other legible_other same
    have marks_other := card_marks other legible_other headed
    rw [← same, marks] at marks_other
    exact outline_told report.outline other.outline level.toNat marks_other
  · have failures : (report.leaves defaultSeparator).any (!·.2) =
        (Mark.ofText (report.card level).toList).any Mark.isFailure := by
      rw [marks]
      exact outline_fails report defaultSeparator "" level.toNat
    have lines : (Mark.ofText (report.card level).toList).any Mark.isFailure = true ↔
        ∃ line ∈ cardLines (report.card level), failedBox <+: line := by
      simp only [List.any_eq_true, Mark.ofText, List.mem_filterMap, cardLines, line_fails]
      constructor
      · rintro ⟨mark, ⟨line, member, read⟩, failed⟩
        exact ⟨line, member, mark, read, failed⟩
      · rintro ⟨line, member, mark, read, failed⟩
        exact ⟨mark, ⟨line, member, read⟩, failed⟩
    rw [Report.isValid, List.all_eq_not_any_not, failures, Bool.not_eq_true', Bool.eq_false_iff, ne_eq, lines]
    simp only [not_exists, not_and]

/-- Two reports whose fields are in another order and whose nested key is spelt in another
way have one card and so one outline; the failed postal code is the line of it that
begins with an empty box. -/
theorem walkthrough_card_read :
    let report : Report := [("ship_to", .branch [("zip", .leaf false), ("geo", .branch [])]), ("name", .leaf true)]
    let other : Report := [("name", .leaf true), ("Ship to", .branch [("zip", .leaf false), ("GEO", .branch [])])]
    let card := "- [x] name\n\n## Ship To\n- [ ] zip\n\n### Geo\n_no fields_"
    (1 : Int) ≤ 2 ∧ Report.isLegible report = true ∧ Report.isLegible other = true ∧ report.card 2 = card ∧
    other.card 2 = card ∧ report.outline = other.outline ∧ report.isValid = false ∧
    ∃ line ∈ cardLines (report.card 2), failedBox <+: line := by
  intro report other card
  have legible : Report.isLegible report = true := by decide
  have legible_other : Report.isLegible other = true := by decide
  have shown : report.card 2 = card := by decide +kernel
  have shown_other : other.card 2 = card := by decide +kernel
  obtain ⟨told, valid⟩ := card_tells_outline (by decide : (1 : Int) ≤ 2) legible
  have invalid : report.isValid = false := by decide
  refine ⟨by decide, legible, legible_other, shown, shown_other,
    told other legible_other (shown.trans shown_other.symm), invalid, ?_⟩
  by_contra none_fails
  have passes := valid.mpr fun line member fails => none_fails ⟨line, member, fails⟩
  rw [invalid] at passes
  cases passes

end CardOutline
end RecordSchema
