import QueryWatch.Proofs.Utf16RoundTrip
import QueryWatch.Proofs.Utf8RoundTrip
import QueryWatch.Proofs.Utf8Width
import QueryWatch.Query

/-!
# Numeric properties

A provider may deliver a code as an unsigned or a signed integer of any machine width, or
spelled out in either kind of string, with white space around the digits, a plus sign and
leading zeros. All of these are read as the same code: an integer that fits its width is
its little-endian bytes, a string ends at its first NUL, and trimming leaves a numeral that
the bounded reader accepts, since no code exceeds the bound.

A string of bytes is written in UTF-8, as its reader expects, and so holds every character
that counts as white space.
-/
namespace QueryWatch

namespace Numeral
open Text

theorem digitsValue_eq_ofDigitChars (digits : Text) :
    digitsValue digits = Nat.ofDigitChars 10 digits 0 :=
  Nat.ofDigitChars_eq_foldl.symm

/-- Zeros in front change no value. -/
theorem digitsValue_replicate_append_decimal (zeros n : Nat) :
    digitsValue (List.replicate zeros '0' ++ decimal n) = n := by
  rw [digitsValue_eq_ofDigitChars, Nat.ofDigitChars_append, Nat.ofDigitChars_replicate_zero,
    Nat.mul_zero, decimal, Nat.ofDigitChars_ten_toDigits]

theorem isDigit_of_mem_replicate_append_decimal {zeros n : Nat} {c : Char}
    (member : c ∈ List.replicate zeros '0' ++ decimal n) : c.isDigit = true := by
  rcases List.mem_append.1 member with zero | digit
  · rw [List.eq_of_mem_replicate zero]
    rfl
  · exact Nat.isDigit_of_mem_toDigits (by decide) (by decide) digit

theorem isBlank_of_isDigit {c : Char} (digit : c.isDigit = true) : isBlank c = false := by
  have range : 48 ≤ c.toNat ∧ c.toNat ≤ 57 := by
    simpa [Char.isDigit, UInt32.le_iff_toNat_le] using digit
  simp only [isBlank, inRanges, blankRanges, List.any_eq_false, Bool.and_eq_true,
    decide_eq_true_eq, List.forall_mem_cons, List.not_mem_nil, false_implies, implies_true,
    and_true]
  omega

/-- A text that spells a number: its decimal digits, perhaps after zeros and a plus sign,
with white space around them. -/
def Spells (n : Nat) (t : Text) : Prop :=
  ∃ front sign zeros back,
    t = front ++ (sign ++ (List.replicate zeros '0' ++ decimal n)) ++ back ∧
      (sign = [] ∨ sign = ['+']) ∧
      (∀ c ∈ front, isBlank c = true) ∧ ∀ c ∈ back, isBlank c = true

variable {n : Nat} {t : Text}

theorem dropPlus_append {sign digits : Text} (signed : sign = [] ∨ sign = ['+'])
    (numeral : ∀ c ∈ digits, c.isDigit = true) : dropPlus (sign ++ digits) = digits := by
  rcases signed with rfl | rfl
  · rw [List.nil_append]
    unfold dropPlus
    split
    next => exact absurd (numeral '+' List.mem_cons_self) (by decide)
    next => rfl
  · rfl

/-- Trimming takes the white space around digits and a sign, and nothing of them. -/
theorem trim_around_numeral {front sign digits back : Text}
    (blank_front : ∀ c ∈ front, isBlank c = true) (blank_back : ∀ c ∈ back, isBlank c = true)
    (signed : sign = [] ∨ sign = ['+']) (numeral : ∀ c ∈ digits, c.isDigit = true) :
    trim (front ++ (sign ++ digits) ++ back) = sign ++ digits := by
  have dense : ∀ c ∈ sign ++ digits, isBlank c = false := by
    intro c member
    rcases List.mem_append.1 member with plus | digit
    · rcases signed with rfl | rfl
      · exact absurd plus List.not_mem_nil
      · rw [List.mem_singleton.1 plus]
        decide
    · exact isBlank_of_isDigit (numeral c digit)
  exact trim_between blank_front blank_back
    (fun c first => dense c (List.mem_of_mem_head? first))
    fun c last => dense c (List.mem_of_getLast? last)

/-- A number within the bound is read from every text that spells it. -/
theorem Spells.readUnsigned? (spells : Spells n t) {bound : Nat} (fits : n ≤ bound) :
    readUnsigned? bound (trim t) = some n := by
  obtain ⟨front, sign, zeros, back, rfl, signed, blank_front, blank_back⟩ := spells
  have numeral : ∀ c ∈ List.replicate zeros '0' ++ decimal n, c.isDigit = true :=
    fun _ => isDigit_of_mem_replicate_append_decimal
  have digits : isDigits (List.replicate zeros '0' ++ decimal n) = true := by
    have filled : List.replicate zeros '0' ++ decimal n ≠ [] := by
      simp [decimal, Nat.toDigits_ne_nil]
    simp only [isDigits, Bool.and_eq_true, Bool.not_eq_true', List.isEmpty_eq_false_iff,
      List.all_eq_true]
    exact ⟨filled, numeral⟩
  rw [trim_around_numeral blank_front blank_back signed numeral, Numeral.readUnsigned?,
    dropPlus_append signed numeral, digitsValue_replicate_append_decimal, if_pos ⟨digits, fits⟩]

theorem Spells.nul_not_mem (spells : Spells n t) : nul ∉ t := by
  obtain ⟨front, sign, zeros, back, rfl, signed, blank_front, blank_back⟩ := spells
  have not_blank : ¬isBlank nul = true := by simp [isBlank_nul]
  have not_sign : nul ∉ sign := by
    rcases signed with rfl | rfl
    · exact List.not_mem_nil
    · decide
  have not_digit : nul ∉ List.replicate zeros '0' ++ decimal n := fun member =>
    absurd (isDigit_of_mem_replicate_append_decimal member) (by decide)
  simp only [List.mem_append, not_or] at not_digit ⊢
  exact ⟨⟨fun member => not_blank (blank_front nul member), not_sign, not_digit⟩,
    fun member => not_blank (blank_back nul member)⟩

end Numeral

namespace LittleEndian

/-- An integer that fits is read back from its two's complement. -/
theorem signedValue_signedOctets {width : Nat} {n : Int} (low : -(span width : Int) ≤ 2 * n)
    (high : 2 * n < span width) : signedValue (signedOctets width n) = n := by
  have bytes : n % (span width : Int) = if 0 ≤ n then n else n + span width := by
    split
    · exact Int.emod_eq_of_lt (by omega) (by omega)
    · rw [← Int.add_emod_right, Int.emod_eq_of_lt (by omega) (by omega)]
  have fits : (n % (span width : Int)).toNat < span width := by
    split at bytes <;> omega
  rw [signedOctets, signedValue, length_octets, value_octets_of_lt fits]
  split at bytes <;> split <;> omega

/-- A number that fits without its sign bit is read back as signed. -/
theorem signedValue_signedOctets_of_lt {width n : Nat} (fits : 2 * n < span width) :
    signedValue (signedOctets width n) = n :=
  signedValue_signedOctets (by omega) (by omega)

end LittleEndian

theorem Utf8.zero_not_mem_encode {t : Text} (h : Text.nul ∉ t) : 0 ∉ encode t := by
  intro member
  obtain ⟨c, inside, zero⟩ := List.mem_flatMap.1 member
  by_cases small : c.toNat ≤ 0x7f
  · rw [utf8EncodeChar_of_small small, List.mem_singleton, ← UInt8.toNat_inj,
      UInt8.toNat_ofNat'] at zero
    have same : c.toNat = Text.nul.toNat := by
      simp only [UInt8.reduceToNat] at zero
      change c.toNat = 0
      omega
    exact h (Char.toNat_inj.1 same ▸ inside)
  · have high := high_of_mem_utf8EncodeChar (Nat.not_le.1 small) zero
    exact absurd high (by decide)

namespace Value
open Numeral

/-- What may follow a string: nothing, or the zero that ends it and then anything. -/
def Ended (zero tail : Octets) : Prop :=
  tail = [] ∨ ∃ rest, tail = zero ++ rest

/-- A text is read up to what stops it: bytes that hold no unit, or start with a zero one. -/
theorem ofUnicodeText_append {t : Text} (inside : Text.nul ∉ t) {tail : Octets}
    (stops : (LittleEndian.units tail).takeWhile (· != 0) = []) :
    ofUnicodeText (LittleEndian.ofUnits (Utf16.encode t) ++ tail) = .text t := by
  have written : ∀ u ∈ Utf16.encode t, (u != 0) = true :=
    Text.bne_of_not_mem (Utf16.zero_not_mem_encode inside)
  rw [ofUnicodeText, LittleEndian.units_ofUnits_append, List.takeWhile_append_of_pos written, stops,
    List.append_nil, Utf16.decodeLossy_encode]

theorem ofUnicodeText_written {t : Text} (inside : Text.nul ∉ t) {tail : Octets}
    (ended : Ended [0, 0] tail) :
    ofUnicodeText (LittleEndian.ofUnits (Utf16.encode t) ++ tail) = .text t := by
  apply ofUnicodeText_append inside
  rcases ended with rfl | ⟨rest, rfl⟩ <;> rfl

theorem ofAnsiText_written {t : Text} (inside : Text.nul ∉ t) {tail : Octets}
    (ended : Ended [0] tail) : ofAnsiText (Utf8.encode t ++ tail) = .text t := by
  have written : ∀ b ∈ Utf8.encode t, (b != 0) = true :=
    Text.bne_of_not_mem (Utf8.zero_not_mem_encode inside)
  have stops : tail.takeWhile (· != 0) = [] := by
    rcases ended with rfl | ⟨rest, rfl⟩ <;> rfl
  rw [ofAnsiText, List.takeWhile_append_of_pos written, stops, List.append_nil,
    Utf8.decodeLossy_encode]

/-- The ways in which a provider may deliver a code. -/
inductive Represents (code : UInt64) : PropertyType → Octets → Prop
  | unsigned {width : Nat} (machine : width ∈ integerWidths)
      (fits : code.toNat < LittleEndian.span width) :
      Represents code .unsigned (LittleEndian.octets width code.toNat)
  | signed {width : Nat} (machine : width ∈ integerWidths)
      (fits : 2 * code.toNat < LittleEndian.span width) :
      Represents code .signed (LittleEndian.signedOctets width code.toNat)
  | unicodeText {t : Text} {tail : Octets} (spells : Spells code.toNat t)
      (ended : Ended [0, 0] tail) :
      Represents code .unicodeText (LittleEndian.ofUnits (Utf16.encode t) ++ tail)
  | ansiText {t : Text} {tail : Octets} (spells : Spells code.toNat t) (ended : Ended [0] tail) :
      Represents code .ansiText (Utf8.encode t ++ tail)

/-- A value that stands for a code: the number itself, or a text that spells it. -/
inductive StandsFor (code : UInt64) : Value → Prop
  | number : StandsFor code (.number code)
  | text {t : Text} (spells : Spells code.toNat t) : StandsFor code (.text t)

variable {code : UInt64} {type : PropertyType} {bytes : Octets}

theorem ofUnsigned?_of_value (machine : bytes.length ∈ integerWidths)
    (same : LittleEndian.value bytes = code.toNat) : ofUnsigned? bytes = some (.number code) := by
  rw [ofUnsigned?, if_pos machine, same, UInt64.ofNat_toNat]

theorem ofSigned?_of_natural (machine : bytes.length ∈ integerWidths)
    (same : LittleEndian.signedValue bytes = code.toNat) :
    ofSigned? bytes = some (.number code) := by
  rw [ofSigned?, if_pos machine, same]
  change some (number (UInt64.ofNat code.toNat)) = _
  rw [UInt64.ofNat_toNat]

theorem Represents.exists_value (represents : Represents code type bytes) :
    ∃ value, ofProperty? type bytes = some value ∧ StandsFor code value := by
  cases represents with
  | unsigned machine fits =>
    refine ⟨.number code, ofUnsigned?_of_value ?_ (LittleEndian.value_octets_of_lt fits), .number⟩
    rwa [LittleEndian.length_octets]
  | signed machine fits =>
    refine ⟨.number code,
      ofSigned?_of_natural ?_ (LittleEndian.signedValue_signedOctets_of_lt fits), .number⟩
    rwa [LittleEndian.signedOctets, LittleEndian.length_octets]
  | unicodeText spells ended =>
    exact ⟨_, congrArg some (ofUnicodeText_written spells.nul_not_mem ended), .text spells⟩
  | ansiText spells ended =>
    exact ⟨_, congrArg some (ofAnsiText_written spells.nul_not_mem ended), .text spells⟩

/-- Against any table a value that stands for a code reads as the code. -/
theorem StandsFor.reading {κ : Type} [CodeTable κ] {value : Value}
    (stands : StandsFor code value) : (Reading.ofValue value : Reading κ) = .ofCode code := by
  cases stands with
  | number => rfl
  | text spells =>
    have bound : code.toNat ≤ Reading.maxCode := Nat.le_of_lt_succ code.toNat_lt
    simp only [Reading.ofValue, spells.readUnsigned? bound, UInt64.ofNat_toNat]

/-- A code reads the same against the types and the statuses of queries however the
provider represents it. -/
theorem numeric_property_reads_as_its_code (represents : Represents code type bytes) :
    ∃ value, ofProperty? type bytes = some value ∧
      (Reading.ofValue value : Reading QueryType) = .ofCode code ∧
      (Reading.ofValue value : Reading QueryStatus) = .ofCode code := by
  obtain ⟨value, found, stands⟩ := represents.exists_value
  exact ⟨value, found, stands.reading, stands.reading⟩

/-- A string of bytes that ends at a NUL, with a no-break space before a plus sign and a zero. -/
theorem padded_numeral_reads_as_its_code :
    Represents 28 .ansiText [0xC2, 0xA0, 0x2B, 0x30, 0x32, 0x38, 0x20, 0, 0xFF] ∧
      ∃ value, ofProperty? .ansiText [0xC2, 0xA0, 0x2B, 0x30, 0x32, 0x38, 0x20, 0, 0xFF]
          = some value ∧
        (Reading.ofValue value : Reading QueryType) = .listed .aaaa ∧
        (Reading.ofValue value : Reading QueryStatus) = .unlisted 28 := by
  have blank : Text.isBlank '\u00A0' = true ∧ Text.isBlank ' ' = true := by decide
  have spells : Spells (28 : UInt64).toNat "\u00A0+028 ".toList :=
    ⟨['\u00A0'], ['+'], 1, [' '], by decide, .inr rfl, by simp [blank], by simp [blank]⟩
  have represents : Represents 28 .ansiText
      [0xC2, 0xA0, 0x2B, 0x30, 0x32, 0x38, 0x20, 0, 0xFF] :=
    @Represents.ansiText _ _ [0, 0xFF] spells (.inr ⟨[0xFF], rfl⟩)
  obtain ⟨value, found, type, status⟩ := numeric_property_reads_as_its_code represents
  exact ⟨represents, value, found, type.trans (by decide), status.trans (by decide)⟩

end Value
end QueryWatch
