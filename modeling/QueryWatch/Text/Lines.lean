import QueryWatch.Text.Basic

/-!
# Lines

A line is ended by a line feed. Splitting a text into its ended lines and the
rest after the last of them undoes the joining of lines that hold no line feed
themselves.
-/
namespace QueryWatch.Text

def lineFeed : Char := '\n'

def unlines (lines : List Text) : Text :=
  lines.flatMap (· ++ [lineFeed])

/-- The ended lines of a text and what follows the last of them. -/
def splitLines : Text → List Text × Text
  | [] => ([], [])
  | c :: rest =>
    let (lines, tail) := splitLines rest
    if c = lineFeed then ([] :: lines, tail)
    else
      match lines with
      | [] => ([], c :: tail)
      | line :: more => ((c :: line) :: more, tail)

theorem splitLines_of_not_mem {t : Text} (h : lineFeed ∉ t) : splitLines t = ([], t) := by
  induction t with
  | nil => rfl
  | cons c rest ih =>
    obtain ⟨here, later⟩ := not_or.1 (mt List.mem_cons.2 h)
    simp [splitLines, ih later, Ne.symm here]

theorem splitLines_line {line : Text} (h : lineFeed ∉ line) (t : Text) :
    splitLines (line ++ lineFeed :: t) = (line :: (splitLines t).1, (splitLines t).2) := by
  induction line with
  | nil => simp [splitLines]
  | cons c rest ih =>
    obtain ⟨here, later⟩ := not_or.1 (mt List.mem_cons.2 h)
    simp [splitLines, ih later, Ne.symm here]

/-- Joined lines split into themselves. -/
theorem splitLines_unlines {lines : List Text} {tail : Text}
    (clean : ∀ line ∈ lines, lineFeed ∉ line) (last : lineFeed ∉ tail) :
    splitLines (unlines lines ++ tail) = (lines, tail) := by
  induction lines with
  | nil => simpa [unlines] using splitLines_of_not_mem last
  | cons line rest ih =>
    have split := splitLines_line (clean line List.mem_cons_self) (unlines rest ++ tail)
    rw [ih fun other member => clean other (List.mem_cons_of_mem _ member)] at split
    simpa [unlines] using split

end QueryWatch.Text
