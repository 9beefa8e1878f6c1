import QueryWatch.Proofs.LowerCasing
import QueryWatch.Proofs.Trimming

/-!
# Lower-case forms

A text that is lower-cased twice is lower-cased once. The lower-case form of a character is
made of characters that are their own, and none of them is a capital sigma, so there is
nothing left that depends on the neighbourhood.

White space has no part in it: a character that is none has no white space in its lower-case
form. A text without white space at its ends therefore has a lower-case form without, which
trimming leaves as it is.
-/
namespace QueryWatch.Text

namespace CaseRun

variable {run other : CaseRun} {n : Nat}

def members (run : CaseRun) : List Nat :=
  List.range' run.first ((run.last - run.first) / run.step + 1) run.step

theorem mem_members (covered : run.covers n = true) : n ∈ run.members := by
  simp only [covers, Bool.and_eq_true, decide_eq_true_eq, beq_iff_eq] at covered
  obtain ⟨⟨least, most⟩, spaced⟩ := covered
  have steps := Nat.div_add_mod (n - run.first) run.step
  have few : (n - run.first) / run.step ≤ (run.last - run.first) / run.step :=
    Nat.div_le_div_right (by omega)
  exact List.mem_range'.2 ⟨(n - run.first) / run.step, by omega, by omega⟩

/-- Whether all images of the run lie outside of a range. -/
def avoids (run : CaseRun) (low high : Nat) : Bool :=
  (run.target + (run.last - run.first)).blt low || high.blt run.target

/-- Whether no image of the run is a member of the other. -/
def avoidsMembers (run other : CaseRun) : Bool :=
  run.avoids other.first other.last || run.members.all fun n => !other.covers (run.image n)

theorem image_outside {low high : Nat} (covered : run.covers n = true)
    (avoids : run.avoids low high = true) : run.image n < low ∨ high < run.image n := by
  simp only [covers, Bool.and_eq_true, decide_eq_true_eq] at covered
  simp only [CaseRun.avoids, Bool.or_eq_true, Nat.blt_eq] at avoids
  simp only [image]
  omega

theorem covers_image (covered : run.covers n = true)
    (avoids : run.avoidsMembers other = true) : other.covers (run.image n) = false := by
  rcases Bool.or_eq_true_iff.1 avoids with outside | each
  · have apart := image_outside covered outside
    simp only [covers, Bool.and_eq_false_iff, decide_eq_false_iff_not]
    omega
  · simpa using List.all_eq_true.1 each n (mem_members covered)

/-- The images of all runs are left alone by all runs. -/
theorem covers_image_of_mem {first second : CaseRun} (one : first ∈ lowerRuns)
    (two : second ∈ lowerRuns) (covered : first.covers n = true) :
    second.covers (first.image n) = false := by
  have all : lowerRuns.all (fun run => lowerRuns.all run.avoidsMembers) = true := by
    decide +kernel
  exact covers_image covered (List.all_eq_true.1 (List.all_eq_true.1 all first one) second two)

/-- No image is white space or the letter that has a form of two characters. -/
theorem image_outside_of_mem (member : run ∈ lowerRuns) (covered : run.covers n = true)
    {range : Nat × Nat} (special : range ∈ (0x130, 0x130) :: blankRanges) :
    run.image n < range.1 ∨ range.2 < run.image n := by
  have all : lowerRuns.all (fun run =>
      ((0x130, 0x130) :: blankRanges).all fun range => run.avoids range.1 range.2) = true := by
    decide +kernel
  exact image_outside covered (List.all_eq_true.1 (List.all_eq_true.1 all run member) range special)

end CaseRun

/-- A character that is its own lower-case form wherever it stands. -/
def Small (c : Char) : Prop :=
  lowerChar c = [c] ∧ c ≠ capitalSigma

instance (c : Char) : Decidable (Small c) :=
  inferInstanceAs (Decidable (_ ∧ _))

theorem small_of_uncovered {c : Char} (undotted : c ≠ capitalDottedI)
    (uncovered : ∀ run ∈ lowerRuns, run.covers c.toNat = false) : Small c := by
  have nowhere : lowerRuns.find? (·.covers c.toNat) = none :=
    List.find?_eq_none.2 fun run member => by simp [uncovered run member]
  refine ⟨?_, ?_⟩
  · rw [lowerChar, if_neg undotted, nowhere]
  · rintro rfl
    have covered : ∃ run ∈ lowerRuns, run.covers capitalSigma.toNat = true := by decide +kernel
    obtain ⟨run, member, covers⟩ := covered
    exact Bool.false_ne_true ((uncovered run member).symm.trans covers)

/-- What the lower-case form of a character is made of: small characters, and no white space
unless the character is white space. -/
structure LowersTo (c d : Char) : Prop where
  small : Small d
  filled : isBlank c = false → isBlank d = false

theorem toNat_ofNat_of_valid {n : Nat} (valid : n.isValidChar) : (Char.ofNat n).toNat = n := by
  rw [Char.ofNat, dif_pos valid]
  rfl

theorem isBlank_ofNat {n : Nat} (outside : ∀ range ∈ blankRanges, n < range.1 ∨ range.2 < n) :
    isBlank (Char.ofNat n) = false := by
  by_cases valid : n.isValidChar
  · have same := toNat_ofNat_of_valid valid
    rw [isBlank, inRanges, List.any_eq_false]
    intro range member
    have apart := outside range member
    simp only [same, Bool.and_eq_true, decide_eq_true_eq]
    omega
  · rw [Char.ofNat, dif_neg valid]
    decide

theorem lowersTo_image {run : CaseRun} {n : Nat} (member : run ∈ lowerRuns)
    (covered : run.covers n = true) (c : Char) : LowersTo c (Char.ofNat (run.image n)) where
  filled _ := isBlank_ofNat fun _ blank =>
    CaseRun.image_outside_of_mem member covered (List.mem_cons_of_mem _ blank)
  small := by
    by_cases valid : (run.image n).isValidChar
    · have same := toNat_ofNat_of_valid valid
      refine small_of_uncovered ?_ fun other listed => ?_
      · intro dotted
        have apart := CaseRun.image_outside_of_mem member covered List.mem_cons_self
        have place : run.image n = 0x130 := by rw [← same, dotted]; rfl
        omega
      · rw [same]
        exact CaseRun.covers_image_of_mem member listed covered
    · rw [Char.ofNat, dif_neg valid]
      decide +kernel

theorem lowersTo_of_mem_lowerChar {c d : Char} (other : c ≠ capitalSigma)
    (member : d ∈ lowerChar c) : LowersTo c d := by
  have letter : Small 'i' ∧ isBlank 'i' = false := by decide +kernel
  have dot : Small '\u0307' ∧ isBlank '\u0307' = false := by decide +kernel
  unfold lowerChar at member
  split_ifs at member with undotted
  · obtain rfl | rfl : d = 'i' ∨ d = '\u0307' := by simpa using member
    · exact ⟨letter.1, fun _ => letter.2⟩
    · exact ⟨dot.1, fun _ => dot.2⟩
  · split at member
    next run found =>
      rw [List.mem_singleton.1 member]
      have covered : run.covers c.toNat = true := by simpa using List.find?_some found
      exact lowersTo_image (List.mem_of_find?_eq_some found) covered c
    next nowhere =>
      obtain rfl := List.mem_singleton.1 member
      have own : lowerChar d = [d] := by rw [lowerChar, if_neg undotted, nowhere]
      exact ⟨⟨own, other⟩, id⟩

theorem lowersTo_lowerSigma (before after : Text) :
    LowersTo capitalSigma (lowerSigma before after) := by
  have final : Small finalSigma ∧ isBlank finalSigma = false := by decide +kernel
  have small : Small smallSigma ∧ isBlank smallSigma = false := by decide +kernel
  unfold lowerSigma
  split
  · exact ⟨final.1, fun _ => final.2⟩
  · exact ⟨small.1, fun _ => small.2⟩

theorem lowerWithin_singleton (before after : Text) (c : Char) :
    lowerWithin before after [c] =
      if c = capitalSigma then [lowerSigma before after] else lowerChar c :=
  List.append_nil _

theorem lowersTo_of_mem {before after : Text} {c d : Char}
    (member : d ∈ lowerWithin before after [c]) : LowersTo c d := by
  rw [lowerWithin_singleton] at member
  split_ifs at member with sigma
  · rw [List.mem_singleton.1 member, sigma]
    exact lowersTo_lowerSigma before after
  · exact lowersTo_of_mem_lowerChar sigma member

theorem lowerWithin_singleton_ne_nil (before after : Text) (c : Char) :
    lowerWithin before after [c] ≠ [] := by
  rw [lowerWithin_singleton]
  split_ifs
  · exact List.cons_ne_nil _ _
  · exact lowerChar_ne_nil c

theorem lowerWithin_cons (before after rest : Text) (c : Char) :
    lowerWithin before after (c :: rest) =
      lowerWithin before (rest ++ after) [c] ++ lowerWithin (c :: before) after rest :=
  lowerWithin_append before after [c] rest

theorem small_of_mem_lowerWithin {before after t : Text} {d : Char}
    (member : d ∈ lowerWithin before after t) : Small d := by
  induction t generalizing before with
  | nil => exact absurd member List.not_mem_nil
  | cons c rest ih =>
    rw [lowerWithin_cons, List.mem_append] at member
    rcases member with here | later
    · exact (lowersTo_of_mem here).small
    · exact ih later

theorem lowerWithin_of_small {before after t : Text} (small : ∀ c ∈ t, Small c) :
    lowerWithin before after t = t := by
  induction t generalizing before with
  | nil => rfl
  | cons c rest ih =>
    obtain ⟨own, other⟩ := small c List.mem_cons_self
    rw [lowerWithin_cons, lowerWithin_singleton, if_neg other, own,
      ih fun d member => small d (List.mem_cons_of_mem _ member)]
    rfl

/-- Lower-casing once is enough. -/
theorem lower_lower (t : Text) : lower (lower t) = lower t := by
  rw [lower_eq_lowerWithin t, lower_eq_lowerWithin]
  exact lowerWithin_of_small fun _ => small_of_mem_lowerWithin

/-- A text with no white space at its ends. -/
structure Trimmed (t : Text) : Prop where
  first : ∀ c, t.head? = some c → isBlank c = false
  last : ∀ c, t.getLast? = some c → isBlank c = false

theorem trimmed_trim (t : Text) : Trimmed (trim t) :=
  ⟨fun _ => isBlank_of_head?_trim, fun _ => isBlank_of_getLast?_trim⟩

theorem Trimmed.trim_eq {t : Text} (trimmed : Trimmed t) : trim t = t := by
  have nothing : ∀ c ∈ ([] : Text), isBlank c = true := fun _ none => absurd none List.not_mem_nil
  simpa using trim_between nothing nothing trimmed.first trimmed.last

/-- The ends of a lower-case form come from the ends of the text. -/
theorem Trimmed.lower {t : Text} (trimmed : Trimmed t) : Trimmed (lower t) := by
  rw [lower_eq_lowerWithin]
  refine ⟨fun d first => ?_, fun d last => ?_⟩
  · cases t with
    | nil => exact absurd first (by simp [lowerWithin])
    | cons c rest =>
      rw [lowerWithin_cons, List.head?_append_of_ne_nil _ (lowerWithin_singleton_ne_nil _ _ c)]
        at first
      exact (lowersTo_of_mem (List.mem_of_mem_head? first)).filled (trimmed.first c rfl)
  · rcases List.eq_nil_or_concat' t with rfl | ⟨front, c, rfl⟩
    · exact absurd last (by simp [lowerWithin])
    · rw [lowerWithin_append,
        List.getLast?_append_of_ne_nil _ (lowerWithin_singleton_ne_nil _ _ c)] at last
      exact (lowersTo_of_mem (List.mem_of_getLast? last)).filled
        (trimmed.last c List.getLast?_concat)

end QueryWatch.Text
