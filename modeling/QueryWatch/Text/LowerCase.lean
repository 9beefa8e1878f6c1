import QueryWatch.Text.CaseTable

/-!
# Lower-casing

Each code point is replaced by its lower-case form on its own, with one
exception that looks at the neighbourhood: a capital sigma that ends a word
becomes the final form. A word ends where the nearest character before that is
not case-ignorable is cased and the nearest such character after is not.
-/
namespace QueryWatch.Text

def capitalSigma : Char := 'Σ'
def smallSigma : Char := 'σ'
def finalSigma : Char := 'ς'
def capitalDottedI : Char := 'İ'

/-- The lower-case form of one code point, regardless of its neighbours. -/
def lowerChar (c : Char) : Text :=
  if c = capitalDottedI then ['i', '\u0307']
  else match lowerRuns.find? (·.covers c.toNat) with
    | some run => [Char.ofNat (run.image c.toNat)]
    | none => [c]

/-- Whether the first character that is not case-ignorable is cased. -/
def meetsCased (t : Text) : Bool :=
  match t.dropWhile isCaseIgnorable with
  | c :: _ => isCased c
  | [] => false

/-- The form of a capital sigma between two texts, the one before it given
nearest character first. -/
def lowerSigma (before after : Text) : Char :=
  if meetsCased before && !meetsCased after then finalSigma else smallSigma

/-- Lower-casing of a text that continues another, given nearest character
first. -/
def lowerAfter (before : Text) : Text → Text
  | [] => []
  | c :: after =>
    (if c = capitalSigma then [lowerSigma before after] else lowerChar c)
      ++ lowerAfter (c :: before) after

def lower (t : Text) : Text :=
  lowerAfter [] t

end QueryWatch.Text
