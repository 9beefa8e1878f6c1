/-!
# Texts and octets

A text is the list of its code points, an octet string the list of its bytes.
All of the library computes on these two; the outer programs convert from and
to packed strings. Nothing here depends on an encoding.
-/
namespace QueryWatch

/-- Code points, first to last. -/
abbrev Text := List Char

/-- Eight-bit units, first to last. -/
abbrev Octets := List UInt8

namespace Text

def inRanges (table : List (Nat × Nat)) (c : Char) : Bool :=
  table.any fun range => range.1 ≤ c.toNat && c.toNat ≤ range.2

/-- Drops the longest run of members of a class from the end. -/
def stripEnd (p : Char → Bool) (t : Text) : Text :=
  (t.reverse.dropWhile p).reverse

/-- The pieces with one separator between neighbours. -/
def join (separator : Text) : List Text → Text
  | [] => []
  | [piece] => piece
  | piece :: rest => piece ++ separator ++ join separator rest

/-- Whether the first text occurs in the second as consecutive code points. -/
def occursIn (needle : Text) : Text → Bool
  | [] => needle.isEmpty
  | c :: rest => needle.isPrefixOf (c :: rest) || occursIn needle rest

/-- The text followed by blanks up to a width in code points; a longer text is
kept whole. -/
def column (width : Nat) (t : Text) : Text :=
  t ++ List.replicate (width - t.length) ' '

/-- Joining is core's intercalation. -/
theorem join_eq_intercalate (separator : Text) (pieces : List Text) :
    join separator pieces = separator.intercalate pieces := by
  fun_induction join separator pieces
  case case1 => rfl
  case case2 piece => simp
  case case3 piece rest more ih =>
    obtain ⟨next, others, rfl⟩ := List.exists_cons_of_ne_nil more
    rw [ih, List.intercalate_cons_cons]

/-- Occurrence is core's relation of infixes. -/
theorem occursIn_iff {needle t : Text} : occursIn needle t = true ↔ needle <:+: t := by
  induction t with
  | nil => simp [occursIn]
  | cons c rest ih => simp [occursIn, ih, List.infix_cons_iff]

theorem length_column (width : Nat) (t : Text) :
    (column width t).length = max width t.length := by
  simp only [column, List.length_append, List.length_replicate]
  omega

end Text
end QueryWatch
