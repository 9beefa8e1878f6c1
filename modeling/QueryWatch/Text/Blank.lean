import QueryWatch.Text.Basic

/-!
# White space and trimming

The class is the Unicode property White_Space, twenty-five code points in ten
ranges. Zero-width characters such as U+200B and U+FEFF are not members.
-/
namespace QueryWatch.Text

def blankRanges : List (Nat × Nat) :=
  [(0x9, 0xD), (0x20, 0x20), (0x85, 0x85), (0xA0, 0xA0), (0x1680, 0x1680), (0x2000, 0x200A),
   (0x2028, 0x2029), (0x202F, 0x202F), (0x205F, 0x205F), (0x3000, 0x3000)]

def isBlank (c : Char) : Bool :=
  inRanges blankRanges c

/-- Drops white space at both ends. -/
def trim (t : Text) : Text :=
  stripEnd isBlank (t.dropWhile isBlank)

def isNul (c : Char) : Bool :=
  c == '\x00'

/-- Drops NUL characters at the end. -/
def stripNuls (t : Text) : Text :=
  stripEnd isNul t

/-- Every character that core calls white space has the property. -/
theorem isBlank_of_isWhitespace {c : Char} (h : c.isWhitespace = true) : isBlank c = true := by
  have cases : c = ' ' ∨ c = '\t' ∨ c = '\r' ∨ c = '\n' := by
    simpa [Char.isWhitespace, or_assoc] using h
  rcases cases with rfl | rfl | rfl | rfl <;> decide

end QueryWatch.Text
