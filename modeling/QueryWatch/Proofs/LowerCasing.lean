import Mathlib.Data.List.Basic
import QueryWatch.Text.LowerCase

/-!
# Lower-casing a part of a text

Every character is lower-cased on its own, a capital sigma apart. A sigma looks
on either side for the nearest character that is not case-ignorable, and where
the text ends first it looks on into whatever the text stands in. A sigma is
settled if nothing that it may meet there can change its form.

A text whose sigmas are all settled has one lower-case form wherever it stands.
Every other text loses it beside a single letter: a final sigma becomes a small
one before the letter, or a small one final after it. The form that the text has
alone then occurs nowhere in the whole, as it has one sigma of that kind too many.
-/
namespace QueryWatch.Text

/-- The nearest character that a sigma takes notice of. -/
def neighbour? (t : Text) : Option Char :=
  t.find? fun c => !isCaseIgnorable c

theorem neighbour?_append (s t : Text) :
    neighbour? (s ++ t) = (neighbour? s).or (neighbour? t) :=
  List.find?_append

theorem meetsCased_eq (t : Text) : meetsCased t = (neighbour? t).any isCased := by
  induction t with
  | nil => rfl
  | cons c rest ih =>
    by_cases ignorable : isCaseIgnorable c = true
    · simpa [meetsCased, neighbour?, ignorable] using ih
    · simp [meetsCased, neighbour?, ignorable]

theorem meetsCased_append (s t : Text) :
    meetsCased (s ++ t) = ((neighbour? s).or (neighbour? t)).any isCased := by
  rw [meetsCased_eq, neighbour?_append]

/-- Whether a sigma between two texts, the one before it given nearest character
first, has the same form whatever surrounds the two. -/
def sigmaSettled (before after : Text) : Bool :=
  match neighbour? before, neighbour? after with
  | some _, some _ => true
  | some left, none => !isCased left
  | none, some right => isCased right
  | none, none => false

theorem lowerSigma_of_settled {before after : Text} (settled : sigmaSettled before after = true)
    (p q : Text) : lowerSigma (before ++ p) (after ++ q) = lowerSigma before after := by
  simp only [lowerSigma, meetsCased_append, meetsCased_eq before, meetsCased_eq after]
  unfold sigmaSettled at settled
  -- One neighbour within the text is enough if it rules out the final form.
  split at settled
  next left right found_left found_right => simp [found_left, found_right]
  next left found_left found_right =>
    have uncased : isCased left = false := by simpa using settled
    simp [found_left, found_right, uncased]
  next right found_left found_right => simp [found_left, found_right, settled]
  next => simp at settled

theorem neighbour?_letter : neighbour? ['a'] = some 'a' := by
  decide +kernel

theorem isCased_letter : isCased 'a' = true := by
  decide +kernel

theorem smallSigma_ne_finalSigma : smallSigma ≠ finalSigma := by
  decide

/-- A letter changes a sigma that is not settled: after it, or else before it. -/
theorem lowerSigma_of_unsettled {before after : Text}
    (unsettled : sigmaSettled before after = false) :
    (lowerSigma before after = finalSigma ∧ lowerSigma before (after ++ ['a']) ≠ finalSigma) ∨
      (lowerSigma before after = smallSigma ∧
        lowerSigma (before ++ ['a']) after ≠ smallSigma) := by
  simp only [lowerSigma, meetsCased_append, meetsCased_eq before, meetsCased_eq after,
    neighbour?_letter]
  unfold sigmaSettled at unsettled
  split at unsettled
  next => simp at unsettled
  next left found_left found_right =>
    have left_cased : isCased left = true := by simpa using unsettled
    left
    simp [found_left, found_right, left_cased, isCased_letter, smallSigma_ne_finalSigma]
  next right found_left found_right =>
    right
    simp [found_left, found_right, unsettled, isCased_letter, smallSigma_ne_finalSigma.symm]
  next found_left found_right =>
    right
    simp [found_left, found_right, isCased_letter, smallSigma_ne_finalSigma.symm]

/-- The lower-case form of a text in its place between two others, the one before
it given nearest character first. -/
def lowerWithin (before after : Text) : Text → Text
  | [] => []
  | c :: rest =>
    (if c = capitalSigma then [lowerSigma before (rest ++ after)] else lowerChar c)
      ++ lowerWithin (c :: before) after rest

theorem lowerAfter_eq_lowerWithin (before t : Text) :
    lowerAfter before t = lowerWithin before [] t := by
  induction t generalizing before with
  | nil => rfl
  | cons c rest ih => rw [lowerAfter, lowerWithin, ih, List.append_nil]

theorem lower_eq_lowerWithin (t : Text) : lower t = lowerWithin [] [] t :=
  lowerAfter_eq_lowerWithin [] t

theorem lowerWithin_append (before after s t : Text) :
    lowerWithin before after (s ++ t) =
      lowerWithin before (t ++ after) s ++ lowerWithin (s.reverse ++ before) after t := by
  induction s generalizing before with
  | nil => rfl
  | cons c rest ih =>
    rw [List.cons_append, lowerWithin, lowerWithin, ih, List.append_assoc rest t after,
      List.append_assoc, List.reverse_cons, List.append_assoc]
    rfl

/-- A text keeps its place: its form in the whole stands between those of what is
before it and of what is after it. -/
theorem lower_append_append (p t q : Text) :
    lower (p ++ t ++ q) =
      lowerWithin [] (t ++ q) p ++ lowerWithin p.reverse q t
        ++ lowerWithin (t.reverse ++ p.reverse) [] q := by
  rw [lower_eq_lowerWithin, List.append_assoc, lowerWithin_append, lowerWithin_append]
  simp only [List.append_nil, List.append_assoc]

theorem lowerWithin_infix_lower (p t q : Text) :
    lowerWithin p.reverse q t <:+: lower (p ++ t ++ q) :=
  ⟨_, _, (lower_append_append p t q).symm⟩

theorem lowerChar_ne_nil (c : Char) : lowerChar c ≠ [] := by
  unfold lowerChar
  split
  · simp
  · split <;> simp

theorem lower_ne_nil {t : Text} (h : t ≠ []) : lower t ≠ [] := by
  cases t with
  | nil => exact absurd rfl h
  | cons c rest =>
    rw [lower_eq_lowerWithin, lowerWithin]
    intro empty
    have first := (List.append_eq_nil_iff.1 empty).1
    split_ifs at first
    exact lowerChar_ne_nil c first

/-- Whether all capital sigmas of a text are settled, where the text continues
another, given nearest character first. -/
def sigmasSettledAfter (before : Text) : Text → Bool
  | [] => true
  | c :: after =>
    (c != capitalSigma || sigmaSettled before after) && sigmasSettledAfter (c :: before) after

def sigmasSettled (t : Text) : Bool :=
  sigmasSettledAfter [] t

theorem lowerWithin_of_settled {before t : Text} (settled : sigmasSettledAfter before t = true)
    (p q : Text) : lowerWithin (before ++ p) q t = lowerWithin before [] t := by
  induction t generalizing before with
  | nil => rfl
  | cons c after ih =>
    obtain ⟨here, later⟩ := Bool.and_eq_true_iff.1 settled
    have rest := ih later
    rw [List.cons_append] at rest
    rw [lowerWithin, lowerWithin, rest, List.append_nil]
    by_cases sigma : c = capitalSigma
    · have this_one : sigmaSettled before after = true := by simpa [sigma] using here
      rw [if_pos sigma, if_pos sigma, lowerSigma_of_settled this_one]
    · rw [if_neg sigma, if_neg sigma]

theorem lower_infix_of_settled {t : Text} (settled : sigmasSettled t = true) (p q : Text) :
    lower t <:+: lower (p ++ t ++ q) := by
  have same : lowerWithin p.reverse q t = lowerWithin [] [] t :=
    lowerWithin_of_settled settled p.reverse q
  rw [lower_eq_lowerWithin t, ← same]
  exact lowerWithin_infix_lower p t q

theorem exists_unsettled {before t : Text} (unsettled : sigmasSettledAfter before t = false) :
    ∃ u v, t = u ++ capitalSigma :: v ∧ sigmaSettled (u.reverse ++ before) v = false := by
  induction t generalizing before with
  | nil => exact absurd unsettled (by simp [sigmasSettledAfter])
  | cons c after ih =>
    rcases Bool.and_eq_false_iff.1 unsettled with here | later
    · obtain ⟨sigma, loose⟩ := Bool.or_eq_false_iff.1 here
      obtain rfl : c = capitalSigma := by simpa using sigma
      exact ⟨[], after, rfl, loose⟩
    · obtain ⟨u, v, rfl, loose⟩ := ih later
      refine ⟨c :: u, v, rfl, ?_⟩
      rw [List.reverse_cons, List.append_assoc]
      exact loose

section Counting

/-! A pair of surroundings that makes no sigma one of a given kind. -/

variable {x : Char} {p q : Text}
  (keeps : ∀ before after, lowerSigma (before ++ p) (after ++ q) = x →
    lowerSigma before after = x)
include keeps

theorem count_sigma_le (before after : Text) :
    [lowerSigma (before ++ p) (after ++ q)].count x ≤ [lowerSigma before after].count x := by
  by_cases here : lowerSigma (before ++ p) (after ++ q) = x
  · have same : lowerSigma (before ++ p) (after ++ q) = lowerSigma before after :=
      here.trans (keeps before after here).symm
    exact Nat.le_of_eq (congrArg (fun y : Char => [y].count x) same)
  · simp [here]

theorem count_lowerWithin_le (before after t : Text) :
    (lowerWithin (before ++ p) (after ++ q) t).count x ≤
      (lowerWithin before after t).count x := by
  induction t generalizing before with
  | nil => exact Nat.le_refl _
  | cons c rest ih =>
    have later := ih (c :: before)
    rw [List.cons_append] at later
    rw [lowerWithin, lowerWithin, List.count_append, List.count_append]
    refine Nat.add_le_add ?_ later
    split_ifs
    · rw [← List.append_assoc]
      exact count_sigma_le keeps before (rest ++ after)
    · exact Nat.le_refl _

/-- One sigma that loses the kind is one fewer in the whole. -/
theorem count_lowerWithin_lt {u v : Text} (alone : lowerSigma u.reverse v = x)
    (inside : lowerSigma (u.reverse ++ p) (v ++ q) ≠ x) :
    (lowerWithin p q (u ++ capitalSigma :: v)).count x <
      (lowerWithin [] [] (u ++ capitalSigma :: v)).count x := by
  have front := count_lowerWithin_le keeps [] (capitalSigma :: v) u
  have back := count_lowerWithin_le keeps (capitalSigma :: u.reverse) [] v
  have lost : (lowerSigma (u.reverse ++ p) (v ++ q) == x) = false := by simp [inside]
  have had : (lowerSigma u.reverse v == x) = true := by simp [alone]
  simp only [lowerWithin_append, lowerWithin, if_true, List.count_append, List.count_cons,
    List.append_nil, List.nil_append, List.cons_append, lost, had, Bool.false_eq_true,
    if_false] at front back ⊢
  omega

/-- Between texts that bring none of the kind, a text that loses one does not occur in
lower case as it is alone. -/
theorem lower_not_infix {u v before : Text} (turned : before.reverse = p)
    (alone : lowerSigma u.reverse v = x) (inside : lowerSigma (u.reverse ++ p) (v ++ q) ≠ x)
    (none_before : ∀ after, (lowerWithin [] after before).count x = 0)
    (none_after : ∀ front, (lowerWithin front [] q).count x = 0) :
    ¬lower (u ++ capitalSigma :: v) <:+: lower (before ++ (u ++ capitalSigma :: v) ++ q) := by
  intro found
  have least := found.sublist.count_le x
  have fewer := count_lowerWithin_lt keeps alone inside
  rw [lower_append_append, lower_eq_lowerWithin, List.count_append, List.count_append,
    none_before, none_after, turned] at least
  omega

end Counting

theorem lowerWithin_letter (before after : Text) : lowerWithin before after ['a'] = ['a'] := by
  have plain : lowerChar 'a' = ['a'] := by decide
  have other : 'a' ≠ capitalSigma := by decide
  rw [lowerWithin, if_neg other, plain]
  rfl

/-- A letter after a text makes no sigma of it final. -/
theorem final_of_final_before_letter (before after : Text)
    (final : lowerSigma (before ++ []) (after ++ ['a']) = finalSigma) :
    lowerSigma before after = finalSigma := by
  rw [List.append_nil] at final
  simp only [lowerSigma, meetsCased_append, meetsCased_eq after, neighbour?_letter] at final ⊢
  cases found : neighbour? after with
  | none => simp [found, isCased_letter, smallSigma_ne_finalSigma] at final
  | some right => simpa [found] using final

/-- A letter before a text makes no sigma of it small. -/
theorem small_of_small_after_letter (before after : Text)
    (small : lowerSigma (before ++ ['a']) (after ++ []) = smallSigma) :
    lowerSigma before after = smallSigma := by
  rw [List.append_nil] at small
  simp only [lowerSigma, meetsCased_append, meetsCased_eq before] at small ⊢
  cases found : neighbour? before with
  | none => simp
  | some left => simpa [found] using small

/-- Beside some text, a text that is not settled does not occur in lower case as
it is alone. -/
theorem exists_lower_not_infix {t : Text} (unsettled : sigmasSettled t = false) :
    ∃ p q, ¬lower t <:+: lower (p ++ t ++ q) := by
  obtain ⟨u, v, rfl, loose⟩ := exists_unsettled unsettled
  rw [List.append_nil] at loose
  rcases lowerSigma_of_unsettled loose with ⟨alone, changed⟩ | ⟨alone, changed⟩
  · refine ⟨[], ['a'], lower_not_infix final_of_final_before_letter rfl alone ?_
      (fun _ => rfl) fun _ => ?_⟩
    · rwa [List.append_nil]
    · rw [lowerWithin_letter]
      decide
  · refine ⟨['a'], [], lower_not_infix small_of_small_after_letter rfl alone ?_
      (fun _ => ?_) fun _ => rfl⟩
    · rwa [List.append_nil]
    · rw [lowerWithin_letter]
      decide

/-- The texts that occur in lower case as they are alone, whatever they stand in. -/
theorem sigmasSettled_iff (t : Text) :
    sigmasSettled t = true ↔ ∀ p q, lower t <:+: lower (p ++ t ++ q) := by
  constructor
  · exact lower_infix_of_settled
  · intro everywhere
    by_contra loose
    obtain ⟨p, q, absent⟩ := exists_lower_not_infix (eq_false_of_ne_true loose)
    exact absent (everywhere p q)

end QueryWatch.Text
