import QueryWatch.Proofs.NumericProperties

/-!
# Properties as providers write them

A provider writes text, integers and anything else each in a form of its own, and the declared
type says which. A property is read as the value that was written: text up to what ends it, an
integer of a machine width as its number or its decimal digits, and all other bytes as hexadecimal
text, from which they can be had back. Apart from the strings, which may be damaged, the forms
leave nothing out, so no property is read but as what some form makes of it.
-/
namespace QueryWatch

namespace LittleEndian

theorem span_eq_pow (width : Nat) : span width = 256 ^ width := by
  induction width with
  | zero => rfl
  | succ width ih => rw [span, ih, Nat.pow_succ, Nat.mul_comm]

/-- Bytes are those of their value. -/
theorem octets_value (bytes : Octets) : octets bytes.length (value bytes) = bytes := by
  induction bytes with
  | nil => rfl
  | cons b rest ih =>
    have bound := b.toNat_lt
    have low : (b.toNat + 256 * value rest) % 256 = b.toNat := by omega
    have high : (b.toNat + 256 * value rest) / 256 = value rest := by omega
    rw [List.length_cons, value, octets, low, high, ih, UInt8.ofNat_toNat]

theorem signedValue_bounds (bytes : Octets) :
    -(span bytes.length : Int) ≤ 2 * signedValue bytes ∧
      2 * signedValue bytes < span bytes.length := by
  have bound := value_lt bytes
  unfold signedValue
  split <;> omega

theorem signedOctets_signedValue (bytes : Octets) :
    signedOctets bytes.length (signedValue bytes) = bytes := by
  have bound := value_lt bytes
  have same : (signedValue bytes % (span bytes.length : Int)).toNat = value bytes := by
    unfold signedValue
    split
    · rw [Int.emod_eq_of_lt (by omega) (by omega), Int.toNat_natCast]
    · rw [Int.sub_emod_right, Int.emod_eq_of_lt (by omega) (by omega), Int.toNat_natCast]
  rw [signedOctets, same, octets_value]

end LittleEndian

namespace Numeral

theorem hexDigit_mem {n : Nat} (h : n < 16) : hexDigit n ∈ "0123456789abcdef".toList := by
  have all : ∀ digit : Fin 16, hexDigit digit ∈ "0123456789abcdef".toList := by decide
  exact all ⟨n, h⟩

theorem mem_lowerHex {bytes : Octets} {c : Char} (member : c ∈ lowerHex bytes) :
    c ∈ "0123456789abcdef".toList := by
  obtain ⟨b, -, digit⟩ := List.mem_flatMap.1 member
  have bound := b.toNat_lt
  rcases List.mem_pair.1 digit with rfl | rfl
  · exact hexDigit_mem (by omega)
  · exact hexDigit_mem (by omega)

end Numeral

namespace Value
open LittleEndian

/-- How a provider writes a property of a declared type, and the value that it means. -/
inductive Writes : PropertyType → Octets → Value → Prop
  /-- Behind the text may stand nothing, one stray byte, or a zero unit and then anything. -/
  | unicodeText {t : Text} {tail : Octets} (inside : Text.nul ∉ t)
      (ended : tail = [] ∨ (∃ stray, tail = [stray]) ∨ ∃ rest, tail = [0, 0] ++ rest) :
      Writes .unicodeText (ofUnits (Utf16.encode t) ++ tail) (.text t)
  /-- Behind the text may stand nothing, or a zero and then anything. -/
  | ansiText {t : Text} {tail : Octets} (inside : Text.nul ∉ t)
      (ended : tail = [] ∨ ∃ rest, tail = [0] ++ rest) :
      Writes .ansiText (Utf8.encode t ++ tail) (.text t)
  | unsigned {width : Nat} {code : UInt64} (machine : width ∈ [1, 2, 4, 8])
      (fits : code.toNat < 256 ^ width) :
      Writes .unsigned (octets width code.toNat) (.number code)
  | signed {width : Nat} {code : UInt64} (machine : width ∈ [1, 2, 4, 8])
      (fits : 2 * code.toNat < 256 ^ width) :
      Writes .signed (signedOctets width code.toNat) (.number code)
  | negative {width n : Nat} (machine : width ∈ [1, 2, 4, 8]) (below : 0 < n)
      (fits : 2 * n ≤ 256 ^ width) :
      Writes .signed (signedOctets width (-n)) (.other ('-' :: Numeral.decimal n))
  | hexadecimal {type : PropertyType} {bytes : Octets} (filled : bytes ≠ [])
      (plain : type = .other ∨ (type = .unsigned ∨ type = .signed) ∧ bytes.length ∉ [1, 2, 4, 8]) :
      Writes type bytes (.other (Numeral.lowerHex bytes))

variable {type : PropertyType} {bytes : Octets} {value : Value}

/-- The numbers of a machine width are codes. -/
theorem exists_code {n : Nat} (machine : bytes.length ∈ integerWidths)
    (fits : n < 256 ^ bytes.length) : ∃ code : UInt64, code.toNat = n := by
  have widest : bytes.length ≤ 8 := by
    simp only [integerWidths, List.mem_cons, List.not_mem_nil, or_false] at machine
    omega
  have bound : 256 ^ bytes.length ≤ 2 ^ 64 := Nat.pow_le_pow_right (by decide) widest
  refine ⟨UInt64.ofNat n, ?_⟩
  rw [UInt64.toNat_ofNat', Nat.mod_eq_of_lt (Nat.lt_of_lt_of_le fits bound)]

theorem ofSigned?_of_negative {n : Nat} (machine : bytes.length ∈ integerWidths) (below : 0 < n)
    (same : signedValue bytes = -n) :
    ofSigned? bytes = some (.other ('-' :: Numeral.decimal n)) := by
  cases n with
  | zero => exact absurd below (Nat.lt_irrefl 0)
  | succ n =>
    rw [ofSigned?, if_pos machine, same]
    rfl

theorem hexadecimal?_of_filled (filled : bytes ≠ []) :
    hexadecimal? bytes = some (.other (Numeral.lowerHex bytes)) :=
  if_neg filled

theorem Writes.ofProperty?_eq (writes : Writes type bytes value) :
    ofProperty? type bytes = some value := by
  cases writes with
  | unicodeText inside ended =>
    apply congrArg some
    apply ofUnicodeText_append inside
    rcases ended with rfl | ⟨stray, rfl⟩ | ⟨rest, rfl⟩ <;> rfl
  | ansiText inside ended => exact congrArg some (ofAnsiText_written inside ended)
  | @unsigned width code machine fits =>
    rw [← span_eq_pow] at fits
    apply ofUnsigned?_of_value
    · rwa [length_octets]
    · exact value_octets_of_lt fits
  | @signed width code machine fits =>
    rw [← span_eq_pow] at fits
    apply ofSigned?_of_natural
    · rwa [signedOctets, length_octets]
    · exact signedValue_signedOctets_of_lt fits
  | @negative width n machine below fits =>
    rw [← span_eq_pow] at fits
    apply ofSigned?_of_negative _ below
    · exact signedValue_signedOctets (by omega) (by omega)
    · rwa [signedOctets, length_octets]
  | hexadecimal filled plain =>
    rcases plain with rfl | ⟨rfl | rfl, width⟩
    · exact hexadecimal?_of_filled filled
    · exact (if_neg width).trans (hexadecimal?_of_filled filled)
    · exact (if_neg width).trans (hexadecimal?_of_filled filled)

theorem writes_of_hexadecimal? (found : hexadecimal? bytes = some value)
    (plain : type = .other ∨ (type = .unsigned ∨ type = .signed) ∧ bytes.length ∉ [1, 2, 4, 8]) :
    Writes type bytes value := by
  unfold hexadecimal? at found
  split at found
  next => cases found
  next filled =>
    obtain rfl := Option.some.inj found
    exact .hexadecimal filled plain

theorem writes_of_ofUnsigned? (found : ofUnsigned? bytes = some value) :
    Writes .unsigned bytes value := by
  by_cases machine : bytes.length ∈ integerWidths
  · have bound := value_lt bytes
    rw [span_eq_pow] at bound
    have back := octets_value bytes
    obtain ⟨code, same⟩ := exists_code machine bound
    rw [ofUnsigned?_of_value machine same.symm] at found
    obtain rfl := Option.some.inj found
    rw [← same] at back bound
    exact back ▸ .unsigned machine bound
  · rw [ofUnsigned?, if_neg machine] at found
    exact writes_of_hexadecimal? found (.inr ⟨.inl rfl, machine⟩)

theorem writes_of_ofSigned? (found : ofSigned? bytes = some value) :
    Writes .signed bytes value := by
  by_cases machine : bytes.length ∈ integerWidths
  · -- The bytes are those of the integer that they hold, and its sign tells the form.
    obtain ⟨low, high⟩ := signedValue_bounds bytes
    have back := signedOctets_signedValue bytes
    rw [span_eq_pow] at low high
    cases integer : signedValue bytes with
    | ofNat n =>
      rw [integer, Int.ofNat_eq_natCast] at high back
      have fits : 2 * n < 256 ^ bytes.length := by omega
      obtain ⟨code, rfl⟩ := exists_code machine (show n < 256 ^ bytes.length by omega)
      rw [ofSigned?_of_natural machine integer] at found
      obtain rfl := Option.some.inj found
      exact back ▸ .signed machine fits
    | negSucc n =>
      rw [integer, Int.negSucc_eq] at low back
      have fits : 2 * (n + 1) ≤ 256 ^ bytes.length := by omega
      rw [ofSigned?_of_negative machine n.succ_pos integer] at found
      obtain rfl := Option.some.inj found
      exact back ▸ .negative machine n.succ_pos fits
  · rw [ofSigned?, if_neg machine] at found
    exact writes_of_hexadecimal? found (.inr ⟨.inr rfl, machine⟩)

theorem ne_nil_of_machine (machine : bytes.length ∈ integerWidths) : bytes ≠ [] := by
  rintro rfl
  exact absurd machine (by decide)

theorem hexadecimal?_eq_none_iff : hexadecimal? bytes = none ↔ bytes = [] := by
  simp [hexadecimal?]

theorem ofUnsigned?_eq_none_iff : ofUnsigned? bytes = none ↔ bytes = [] := by
  unfold ofUnsigned?
  split
  next machine => simp [ne_nil_of_machine machine]
  next => exact hexadecimal?_eq_none_iff

theorem ofSigned?_eq_none_iff : ofSigned? bytes = none ↔ bytes = [] := by
  unfold ofSigned?
  split
  next machine => split <;> simp [ne_nil_of_machine machine]
  next => exact hexadecimal?_eq_none_iff

theorem ofProperty?_eq_none_iff :
    ofProperty? type bytes = none ↔ bytes = [] ∧ type ≠ .unicodeText ∧ type ≠ .ansiText := by
  cases type with
  | unsigned => simpa [ofProperty?] using ofUnsigned?_eq_none_iff
  | signed => simpa [ofProperty?] using ofSigned?_eq_none_iff
  | unicodeText => simp [ofProperty?]
  | ansiText => simp [ofProperty?]
  | other => simpa [ofProperty?] using hexadecimal?_eq_none_iff

/-- What a provider writes is read as the value that it means, and apart from the strings nothing
else is read. Hexadecimal text gives its bytes back. Only a property without bytes that is no
string has no value. -/
theorem property_is_read_as_written :
    (∀ type bytes value, Writes type bytes value → ofProperty? type bytes = some value) ∧
      (∀ type bytes value, type ≠ .unicodeText → type ≠ .ansiText →
        ofProperty? type bytes = some value → Writes type bytes value) ∧
      (∀ bytes, (∀ c ∈ Numeral.lowerHex bytes, c ∈ "0123456789abcdef".toList) ∧
        Numeral.readLowerHex? (Numeral.lowerHex bytes) = some bytes) ∧
      ∀ type bytes, ofProperty? type bytes = none ↔
        bytes = [] ∧ type ≠ .unicodeText ∧ type ≠ .ansiText := by
  refine ⟨fun _ _ _ => Writes.ofProperty?_eq, fun type bytes value => ?_, fun bytes => ?_,
    fun _ _ => ofProperty?_eq_none_iff⟩
  · intro unicode ansi found
    cases type with
    | unsigned => exact writes_of_ofUnsigned? found
    | signed => exact writes_of_ofSigned? found
    | unicodeText => exact absurd rfl unicode
    | ansiText => exact absurd rfl ansi
    | other => exact writes_of_hexadecimal? found (.inl rfl)
  · exact ⟨fun _ => Numeral.mem_lowerHex, Numeral.readLowerHex?_lowerHex bytes⟩

/-- A surrogate pair before a stray byte, the least integer of one byte, and bytes of a width that
no integer has. -/
theorem stray_byte_and_least_integer_are_read_as_written :
    Writes .unicodeText [0x3D, 0xD8, 0x00, 0xDE, 0x61] (.text "😀".toList) ∧
      ofProperty? .unicodeText [0x3D, 0xD8, 0x00, 0xDE, 0x61] = some (.text "😀".toList) ∧
      Writes .signed [0x80] (.other "-128".toList) ∧
      ofProperty? .signed [0x80] = some (.other "-128".toList) ∧
      ofProperty? .unsigned [0x00, 0xDE, 0xAD] = some (.other "00dead".toList) ∧
      Writes .unsigned [0x00, 0xDE, 0xAD] (.other "00dead".toList) := by
  obtain ⟨reads, writes, -, -⟩ := property_is_read_as_written
  have face : Writes .unicodeText [0x3D, 0xD8, 0x00, 0xDE, 0x61] (.text "😀".toList) :=
    @Writes.unicodeText "😀".toList [0x61] (by decide) (.inr (.inl ⟨0x61, rfl⟩))
  have least : Writes .signed [0x80] (.other "-128".toList) :=
    @Writes.negative 1 128 (by decide) (by decide) (by decide)
  have odd : ofProperty? .unsigned [0x00, 0xDE, 0xAD] = some (.other "00dead".toList) := by decide
  exact ⟨face, reads _ _ _ face, least, reads _ _ _ least, odd,
    writes _ _ _ (by decide) (by decide) odd⟩

end Value
end QueryWatch
