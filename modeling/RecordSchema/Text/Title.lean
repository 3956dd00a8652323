import RecordSchema.Text.Casing

/-! Title case: the first letter of every run of cased characters goes to title case and the later ones
to lower case. A capital sigma that ends a word becomes the final form of the small one. -/
namespace RecordSchema.Text

/-- Capital sigma and the two small forms. -/
def capitalSigma : Char := 'Σ'
def finalSigma : Char := 'ς'
def smallSigma : Char := 'σ'

/-- Whether the nearest character that a look for case does not pass over is cased. -/
def nearestIsCased (text : List Char) : Bool :=
  match text.dropWhile isCaseIgnorable with
  | [] => false
  | c :: _ => isCased c

/-- The lower-case image of a character between the reversed text before it and the text after it. -/
def lowerBetween (before : List Char) (c : Char) (after : List Char) : List Char :=
  if c = capitalSigma then
    [if nearestIsCased before && !nearestIsCased after then finalSigma else smallSigma]
  else lowerCase c

/-- Title case of the rest of a text, given the reversed text before it. -/
def titleAfter (before : List Char) : List Char → List Char
  | [] => []
  | c :: after =>
    let image := match before with
      | previous :: _ => if isCased previous then lowerBetween before c after else titleCase c
      | [] => titleCase c
    image ++ titleAfter (c :: before) after

/-- A text in title case. -/
def title (text : List Char) : List Char := titleAfter [] text

end RecordSchema.Text
