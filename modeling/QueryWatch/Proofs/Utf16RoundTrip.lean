import QueryWatch.Octets.LittleEndian
import QueryWatch.Proofs.Trimming
import QueryWatch.Text.Utf16

/-!
# UTF-16 is read back

A character below U+10000 is no surrogate, so its one unit is read as itself. A longer
one is split into a high surrogate, which holds the upper ten of its twenty bits, and a
low one with the others, and the reader puts the two together again. Nothing that follows
a written text changes how it is read, and only the NUL character has a unit that is zero.
-/
namespace QueryWatch

namespace Utf16

theorem isHigh_iff (u : UInt16) : isHigh u = true ↔ 0xD800 ≤ u.toNat ∧ u.toNat ≤ 0xDBFF := by
  simp [isHigh, UInt16.le_iff_toNat_le]

theorem isLow_iff (u : UInt16) : isLow u = true ↔ 0xDC00 ≤ u.toNat ∧ u.toNat ≤ 0xDFFF := by
  simp [isLow, UInt16.le_iff_toNat_le]

/-- A unit that is no surrogate is read on its own. -/
theorem decodeLossy_cons {u : UInt16} (plain : u.toNat < 0xD800 ∨ 0xDFFF < u.toNat)
    (rest : List UInt16) : decodeLossy (u :: rest) = Char.ofNat u.toNat :: decodeLossy rest := by
  have not_high : ¬isHigh u = true := by
    rw [isHigh_iff]
    omega
  have not_low : ¬isLow u = true := by
    rw [isLow_iff]
    omega
  rw [decodeLossy.eq_def]
  simp only [if_neg not_high, if_neg not_low]

/-- Surrogates that belong together are read as one. -/
theorem decodeLossy_pair {high low : UInt16} (is_high : isHigh high = true)
    (is_low : isLow low = true) (rest : List UInt16) :
    decodeLossy (high :: low :: rest) = combine high low :: decodeLossy rest := by
  rw [decodeLossy.eq_def]
  simp only [if_pos is_high, if_pos is_low]

theorem decodeLossy_encodeChar_append (c : Char) (rest : List UInt16) :
    decodeLossy (encodeChar c ++ rest) = c :: decodeLossy rest := by
  have valid : c.toNat < 0xd800 ∨ 0xdfff < c.toNat ∧ c.toNat < 0x110000 := c.valid
  have same : Char.ofNat c.toNat = c := Char.ofNat_toNat c
  unfold encodeChar
  split_ifs with short
  · have unit : (UInt16.ofNat c.toNat).toNat = c.toNat := by
      simp only [UInt16.toNat_ofNat']
      omega
    rw [List.singleton_append, decodeLossy_cons (by omega), unit, same]
  · have high : (UInt16.ofNat (0xD800 + (c.toNat - 0x10000) / 0x400)).toNat
        = 0xD800 + (c.toNat - 0x10000) / 0x400 := by
      simp only [UInt16.toNat_ofNat']
      omega
    have low : (UInt16.ofNat (0xDC00 + (c.toNat - 0x10000) % 0x400)).toNat
        = 0xDC00 + (c.toNat - 0x10000) % 0x400 := by
      simp only [UInt16.toNat_ofNat']
      omega
    have whole : 0x10000 + (0xD800 + (c.toNat - 0x10000) / 0x400 - 0xD800) * 0x400
        + (0xDC00 + (c.toNat - 0x10000) % 0x400 - 0xDC00) = c.toNat := by
      omega
    rw [List.cons_append, List.singleton_append, decodeLossy_pair, combine, high, low, whole, same]
    · rw [isHigh_iff, high]
      omega
    · rw [isLow_iff, low]
      omega

theorem decodeLossy_encode_append (t : Text) (rest : List UInt16) :
    decodeLossy (encode t ++ rest) = t ++ decodeLossy rest := by
  induction t with
  | nil => rfl
  | cons c t ih =>
    rw [encode, List.flatMap_cons, List.append_assoc, decodeLossy_encodeChar_append, ← encode, ih,
      List.cons_append]

/-- A written text is read back. -/
theorem decodeLossy_encode (t : Text) : decodeLossy (encode t) = t := by
  have read := decodeLossy_encode_append t []
  rwa [List.append_nil, decodeLossy, List.append_nil] at read

theorem zero_not_mem_encodeChar {c : Char} (h : c ≠ Text.nul) : 0 ∉ encodeChar c := by
  have valid : c.toNat < 0x110000 := by
    have := c.valid
    simp only [UInt32.isValidChar, Nat.isValidChar, Char.toNat_val] at this
    omega
  have positive : c.toNat ≠ 0 := fun zero => h (Char.toNat_inj.1 zero)
  unfold encodeChar
  split_ifs with short
  all_goals
    simp only [List.mem_cons, List.not_mem_nil, or_false, ← UInt16.toNat_inj,
      UInt16.toNat_ofNat', UInt16.reduceToNat]
    omega

theorem zero_not_mem_encode {t : Text} (h : Text.nul ∉ t) : 0 ∉ encode t := by
  intro member
  obtain ⟨c, inside, zero⟩ := List.mem_flatMap.1 member
  refine zero_not_mem_encodeChar ?_ zero
  rintro rfl
  exact h inside

end Utf16

namespace LittleEndian

theorem units_octets_append (u : UInt16) (bytes : Octets) :
    units (octets 2 u.toNat ++ bytes) = u :: units bytes := by
  have bound := u.toNat_lt
  have whole : (UInt8.ofNat (u.toNat % 256)).toNat
      + 256 * (UInt8.ofNat (u.toNat / 256 % 256)).toNat = u.toNat := by
    simp only [UInt8.toNat_ofNat']
    omega
  simp only [octets, List.cons_append, List.nil_append, units, whole, UInt16.ofNat_toNat]

/-- Units that were written are read back in front of anything. -/
theorem units_ofUnits_append (written : List UInt16) (bytes : Octets) :
    units (ofUnits written ++ bytes) = written ++ units bytes := by
  induction written with
  | nil => rfl
  | cons u written ih =>
    rw [ofUnits, List.flatMap_cons, List.append_assoc, units_octets_append, ← ofUnits, ih,
      List.cons_append]

end LittleEndian
end QueryWatch
