import Mathlib.Data.List.DropRight
import QueryWatch.Text.Blank

/-!
# Trimmed texts

Stripping takes the longest run of a class from the end of a text, trimming takes
white space from both of its ends. What is left is a stretch of the text, and neither
of its ends is in the class.
-/
namespace QueryWatch.Text

/-- What a list lacks differs from all it has, so that a run up to it takes the whole list. -/
theorem bne_of_not_mem {α : Type} [BEq α] [LawfulBEq α] {xs : List α} {x : α} (absent : x ∉ xs) :
    ∀ y ∈ xs, (y != x) = true := by
  intro y member
  exact bne_iff_ne.2 (ne_of_mem_of_not_mem member absent)

variable {p : Char → Bool} {s t : Text}

/-- Stripping the end is Mathlib's `rdropWhile`. -/
theorem stripEnd_eq_rdropWhile (p : Char → Bool) (t : Text) : stripEnd p t = t.rdropWhile p :=
  rfl

theorem exists_eq_stripEnd_append (p : Char → Bool) (t : Text) :
    ∃ tail, t = stripEnd p t ++ tail ∧ ∀ c ∈ tail, p c = true :=
  ⟨t.rtakeWhile p, List.rdropWhile_append_rtakeWhile.symm, fun _ => List.mem_rtakeWhile_imp⟩

theorem stripEnd_append (h : ∀ c ∈ t, p c = true) : stripEnd p (s ++ t) = stripEnd p s := by
  induction t using List.reverseRecOn with
  | nil => rw [List.append_nil]
  | append_singleton t c ih =>
    have last : p c = true := h c (by simp)
    have others : ∀ d ∈ t, p d = true := fun d member => h d (by simp [member])
    rw [← List.append_assoc, stripEnd_eq_rdropWhile, List.rdropWhile_concat_pos p _ c last]
    exact ih others

theorem stripEnd_concat {c : Char} (h : p c = false) : stripEnd p (t ++ [c]) = t ++ [c] :=
  List.rdropWhile_concat_neg p t c (by simp [h])

theorem not_of_getLast?_stripEnd {c : Char} (last : (stripEnd p t).getLast? = some c) :
    p c = false := by
  obtain ⟨filled, rfl⟩ := List.mem_getLast?_eq_getLast last
  exact eq_false_of_ne_true (List.rdropWhile_last_not p t filled)

theorem exists_eq_append_dropWhile (p : Char → Bool) (t : Text) :
    ∃ head, t = head ++ t.dropWhile p ∧ ∀ c ∈ head, p c = true :=
  ⟨t.takeWhile p, List.takeWhile_append_dropWhile.symm, fun _ => List.mem_takeWhile_imp⟩

/-- What trimming leaves is a stretch of the text between white space. -/
theorem exists_eq_trim (t : Text) :
    ∃ head tail, t = head ++ trim t ++ tail ∧ (∀ c ∈ head, isBlank c = true) ∧
      ∀ c ∈ tail, isBlank c = true := by
  obtain ⟨head, front, blank_head⟩ := exists_eq_append_dropWhile isBlank t
  obtain ⟨tail, back, blank_tail⟩ := exists_eq_stripEnd_append isBlank (t.dropWhile isBlank)
  refine ⟨head, tail, ?_, blank_head, blank_tail⟩
  rw [List.append_assoc, trim, ← back, ← front]

theorem trim_eq_nil_iff : trim t = [] ↔ ∀ c ∈ t, isBlank c = true := by
  constructor
  · intro nothing c member
    obtain ⟨head, tail, split, blank_head, blank_tail⟩ := exists_eq_trim t
    rw [nothing, List.append_nil] at split
    rw [split, List.mem_append] at member
    exact member.elim (blank_head c) (blank_tail c)
  · intro blank
    rw [trim, List.dropWhile_eq_nil_iff.2 blank]
    rfl

theorem isBlank_of_getLast?_trim {c : Char} (last : (trim t).getLast? = some c) :
    isBlank c = false :=
  not_of_getLast?_stripEnd last

theorem isBlank_of_head?_trim {c : Char} (first : (trim t).head? = some c) :
    isBlank c = false := by
  obtain ⟨tail, split, -⟩ := exists_eq_stripEnd_append isBlank (t.dropWhile isBlank)
  have same : (t.dropWhile isBlank).head? = some c := by
    rw [split, List.head?_append, ← trim, first]
    rfl
  have stops := List.head?_dropWhile_not isBlank t
  rw [same] at stops
  simpa using stops

/-- Trimming takes the white space around a text whose ends are none. -/
theorem trim_between {front core back : Text} (blank_front : ∀ c ∈ front, isBlank c = true)
    (blank_back : ∀ c ∈ back, isBlank c = true)
    (first : ∀ c, core.head? = some c → isBlank c = false)
    (last : ∀ c, core.getLast? = some c → isBlank c = false) :
    trim (front ++ core ++ back) = core := by
  have kept : stripEnd isBlank core = core := by
    rcases List.eq_nil_or_concat' core with rfl | ⟨others, c, rfl⟩
    · rfl
    · exact stripEnd_concat (last c List.getLast?_concat)
  rw [trim, List.append_assoc, List.dropWhile_append_of_pos blank_front]
  cases core with
  | nil => rw [List.nil_append, List.dropWhile_eq_nil_iff.2 blank_back, kept]
  | cons c others =>
    have filled : isBlank c = false := first c rfl
    rw [List.cons_append, List.dropWhile_cons_of_neg (by simp [filled]), ← List.cons_append,
      stripEnd_append blank_back, kept]

/-- The character that ends a text in memory. -/
def nul : Char := '\x00'

theorem isNul_iff {c : Char} : isNul c = true ↔ c = nul :=
  beq_iff_eq

theorem isBlank_nul : isBlank nul = false := by
  decide

theorem stripNuls_append_replicate_nul {t : Text} (ended : t.getLast? ≠ some nul) (n : Nat) :
    stripNuls (t ++ List.replicate n nul) = t := by
  have zero : ∀ c ∈ List.replicate n nul, isNul c = true := by
    intro c member
    rw [List.eq_of_mem_replicate member]
    rfl
  rw [stripNuls, stripEnd_append zero]
  rcases List.eq_nil_or_concat' t with rfl | ⟨front, c, rfl⟩
  · rfl
  · refine stripEnd_concat (eq_false_of_ne_true fun same => ended ?_)
    rw [List.getLast?_concat, isNul_iff.1 same]

end QueryWatch.Text
