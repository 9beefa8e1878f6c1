import QueryWatch.Proofs.LowerCasing
import QueryWatch.Proofs.Utf8Width

/-!
# The case of ASCII letters

The case of its ASCII letters is lost when a text is lower-cased, and nothing else depends
on it: both cases of a letter have one lower-case form, both are cased and neither is
case-ignorable, so that a sigma in the neighbourhood takes the same form. The decoder of
UTF-8 reads a letter as itself wherever it occurs and never as a part of something longer,
so bytes that agree up to the case of letters are read as texts that do.
-/
namespace QueryWatch

/-- A byte, in lower case if it is an ASCII letter. -/
def lowerByte (b : UInt8) : UInt8 :=
  if 0x41 ≤ b ∧ b ≤ 0x5A then b + 0x20 else b

theorem lowerByte_of_high {b : UInt8} (high : 0x80 ≤ b.toNat) : lowerByte b = b := by
  have other : ¬(0x41 ≤ b ∧ b ≤ 0x5A) := by
    simp only [UInt8.le_iff_toNat_le, UInt8.reduceToNat]
    omega
  exact if_neg other

namespace Text

theorem toLower_of_wide {c : Char} (wide : 0x80 ≤ c.toNat) : c.toLower = c := by
  have other : ¬(c.val ≥ 'A'.val ∧ c.val ≤ 'Z'.val) := by
    have large : 0x80 ≤ c.val.toNat := wide
    simp only [ge_iff_le, UInt32.le_iff_toNat_le, Char.reduceVal, UInt32.reduceToNat]
    omega
  exact dif_neg other

/-- A number that is not ASCII stands for no letter of ASCII, or for no character. -/
theorem toLower_ofNat_of_wide {n : Nat} (wide : 0x80 ≤ n) :
    (Char.ofNat n).toLower = Char.ofNat n := by
  by_cases valid : n.isValidChar
  · refine toLower_of_wide ?_
    rw [Char.ofNat, dif_pos valid]
    exact wide
  · rw [Char.ofNat, dif_neg valid]
    rfl

def capitals : List Char := "ABCDEFGHIJKLMNOPQRSTUVWXYZ".toList

theorem toLower_eq_or_mem_capitals (c : Char) : c.toLower = c ∨ c ∈ capitals := by
  by_cases capital : 65 ≤ c.toNat ∧ c.toNat ≤ 90
  · have all : ∀ k : Fin 26, Char.ofNat (65 + k) ∈ capitals := by decide
    have member := all ⟨c.toNat - 65, by omega⟩
    rw [show 65 + (c.toNat - 65) = c.toNat by omega, Char.ofNat_toNat] at member
    exact .inr member
  · left
    refine dif_neg fun range => capital ?_
    simpa [UInt32.le_iff_toNat_le] using range

/-- What lower-casing asks about a character is the same for both cases of a letter. -/
theorem case_of_capitals : ∀ c ∈ capitals,
    isCased c.toLower = isCased c ∧ isCaseIgnorable c.toLower = isCaseIgnorable c ∧
      lowerChar c.toLower = lowerChar c ∧ c.toLower ≠ capitalSigma ∧ c ≠ capitalSigma := by
  have all : capitals.all (fun c => isCased c.toLower == isCased c
      && isCaseIgnorable c.toLower == isCaseIgnorable c && lowerChar c.toLower == lowerChar c
      && c.toLower != capitalSigma && c != capitalSigma) = true := by
    decide +kernel
  simpa [and_assoc] using all

theorem isCased_toLower (c : Char) : isCased c.toLower = isCased c := by
  rcases toLower_eq_or_mem_capitals c with same | capital
  · rw [same]
  · exact (case_of_capitals c capital).1

theorem isCaseIgnorable_toLower (c : Char) : isCaseIgnorable c.toLower = isCaseIgnorable c := by
  rcases toLower_eq_or_mem_capitals c with same | capital
  · rw [same]
  · exact (case_of_capitals c capital).2.1

theorem lowerChar_toLower (c : Char) : lowerChar c.toLower = lowerChar c := by
  rcases toLower_eq_or_mem_capitals c with same | capital
  · rw [same]
  · exact (case_of_capitals c capital).2.2.1

theorem toLower_eq_capitalSigma_iff (c : Char) : c.toLower = capitalSigma ↔ c = capitalSigma := by
  rcases toLower_eq_or_mem_capitals c with same | capital
  · rw [same]
  · obtain ⟨-, -, -, lower_other, other⟩ := case_of_capitals c capital
    exact iff_of_false lower_other other

theorem neighbour?_map_toLower (t : Text) :
    neighbour? (t.map Char.toLower) = (neighbour? t).map Char.toLower := by
  have ignored : (fun c => !isCaseIgnorable c) ∘ Char.toLower = fun c => !isCaseIgnorable c :=
    funext fun c => congrArg not (isCaseIgnorable_toLower c)
  rw [neighbour?, List.find?_map, ignored, neighbour?]

theorem meetsCased_map_toLower (t : Text) : meetsCased (t.map Char.toLower) = meetsCased t := by
  have cased : (fun c : Char => isCased c.toLower) = isCased := funext isCased_toLower
  rw [meetsCased_eq, neighbour?_map_toLower, Option.any_map, cased, meetsCased_eq]

theorem lowerSigma_map_toLower (before after : Text) :
    lowerSigma (before.map Char.toLower) (after.map Char.toLower) = lowerSigma before after := by
  rw [lowerSigma, meetsCased_map_toLower, meetsCased_map_toLower, ← lowerSigma]

theorem lowerAfter_map_toLower (before t : Text) :
    lowerAfter (before.map Char.toLower) (t.map Char.toLower) = lowerAfter before t := by
  induction t generalizing before with
  | nil => rfl
  | cons c after ih =>
    have later := ih (c :: before)
    rw [List.map_cons] at later
    rw [List.map_cons, lowerAfter, lowerAfter, later, lowerSigma_map_toLower, lowerChar_toLower]
    simp only [toLower_eq_capitalSigma_iff]

theorem lower_map_toLower (t : Text) : lower (t.map Char.toLower) = lower t :=
  lowerAfter_map_toLower [] t

/-- Texts that agree up to the case of ASCII letters have one lower-case form. -/
theorem lower_eq_of_map_toLower_eq {s t : Text} (h : s.map Char.toLower = t.map Char.toLower) :
    lower s = lower t := by
  rw [← lower_map_toLower s, h, lower_map_toLower]

theorem map_join (f : Char → Char) (separator : Text) (pieces : List Text) :
    (join separator pieces).map f = join (separator.map f) (pieces.map (List.map f)) := by
  induction pieces with
  | nil => rfl
  | cons piece rest ih =>
    cases rest with
    | nil => rfl
    | cons next rest => simpa [join] using ih

end Text

namespace Utf8
open Text

/-- A byte of ASCII is read as a character whose case is its own. -/
theorem ofNat_lowerByte {b : UInt8} (ascii : b < 0x80) :
    lowerByte b < 0x80 ∧
      Char.ofNat (lowerByte b).toNat = (Char.ofNat b.toNat).toLower := by
  have all : ∀ k : Fin 128, lowerByte (UInt8.ofNat k) < 0x80 ∧
      Char.ofNat (lowerByte (UInt8.ofNat k)).toNat
        = (Char.ofNat (UInt8.ofNat k).toNat).toLower := by
    decide +kernel
  have one := all ⟨b.toNat, ascii⟩
  rwa [UInt8.ofNat_toNat] at one

theorem start_of_high {b : UInt8} (high : ¬b < 0x80) :
    (start b).1 = [] ∨ (start b).1 = [replacement] := by
  rw [start, if_neg high]
  split_ifs <;> simp

theorem start_lowerByte (b : UInt8) :
    start (lowerByte b) = ((start b).1.map Char.toLower, (start b).2) := by
  by_cases ascii : b < 0x80
  · obtain ⟨lower_ascii, same⟩ := ofNat_lowerByte ascii
    rw [start, if_pos lower_ascii, start, if_pos ascii, same]
    rfl
  · have text : (start b).1.map Char.toLower = (start b).1 := by
      rcases start_of_high ascii with none | damage
      · rw [none, List.map_nil]
      · rw [damage]
        rfl
    rw [lowerByte_of_high (Nat.not_lt.1 ascii), text]

theorem step_lowerByte {state : State} (wide : state.Wide) (b : UInt8) :
    step state (lowerByte b) = ((step state b).1.map Char.toLower, (step state b).2) := by
  cases state with
  | between => exact start_lowerByte b
  | inside bits low high further =>
    by_cases fits : (low ≤ b && b ≤ high) = true
    · have least : low ≤ b := by
        simp only [Bool.and_eq_true, decide_eq_true_eq] at fits
        exact fits.1
      have octet : 0x80 ≤ b.toNat := Nat.le_trans wide.1 (UInt8.le_iff_toNat_le.1 least)
      have extended := extended_wide wide least
      rw [lowerByte_of_high octet]
      cases further with
      | zero =>
        have text := toLower_ofNat_of_wide extended
        simp only [step, if_pos fits, List.map_cons, List.map_nil, text]
      | succ n => simp only [step, if_pos fits, List.map_nil]
    · have breaks : ¬(low ≤ lowerByte b && lowerByte b ≤ high) = true := by
        intro lower_fits
        by_cases ascii : b < 0x80
        · simp only [Bool.and_eq_true, decide_eq_true_eq] at lower_fits
          have octet := Nat.le_trans wide.1 (UInt8.le_iff_toNat_le.1 lower_fits.1)
          exact Nat.not_lt.2 octet (UInt8.lt_iff_toNat_lt.1 (ofNat_lowerByte ascii).1)
        · rw [lowerByte_of_high (Nat.not_lt.1 ascii)] at lower_fits
          exact fits lower_fits
      simp only [step, if_neg fits, if_neg breaks, start_lowerByte, List.map_cons]
      rfl

theorem decodeFrom_map_lowerByte {state : State} (wide : state.Wide) (bytes : Octets) :
    decodeFrom state (bytes.map lowerByte) = (decodeFrom state bytes).map Char.toLower := by
  induction bytes generalizing state with
  | nil => cases state <;> rfl
  | cons b rest ih =>
    rw [List.map_cons, decodeFrom, decodeFrom, step_lowerByte wide, ih (step_wide wide b),
      List.map_append]

/-- The case of letters passes through the decoder. -/
theorem decodeLossy_map_lowerByte (bytes : Octets) :
    decodeLossy (bytes.map lowerByte) = (decodeLossy bytes).map Char.toLower := by
  have wide : State.between.Wide := trivial
  exact decodeFrom_map_lowerByte wide bytes

end Utf8
end QueryWatch
