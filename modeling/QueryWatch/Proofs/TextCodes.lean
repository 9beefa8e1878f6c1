import QueryWatch.Proofs.CommandLineReading

/-!
# Texts that stand for codes

A text is looked up in a table if it is a numeral such as the command line has for event ids, one
or more digits that may follow a plus sign, with white space around it. The reader trims the text,
drops a plus sign and asks for digits; the grammar puts the parts together, and says the same. The
bound is on the number alone: leading zeros never reach it, and no text is too long to be read.
What is no numeral or exceeds the bound is kept as it came, white space included.
-/
namespace QueryWatch

namespace Numeral
open Text CommandLine

/-- A numeral of the number, with white space around it. -/
def Denotes (n : Nat) (t : Text) : Prop :=
  ∃ front numeral back, t = front ++ numeral ++ back ∧ (∀ c ∈ front, isBlank c = true) ∧
    (∀ c ∈ back, isBlank c = true) ∧ IdNumeral n numeral

variable {n bound : Nat} {t : Text}

theorem denotes_iff : Denotes n t ↔ IdNumeral n (trim t) := by
  constructor
  · intro denotes
    obtain ⟨front, _, back, rfl, blank_front, blank_back, numeral⟩ := denotes
    obtain ⟨sign, digits, rfl, signed, filled, ascii, value⟩ := numeral
    rw [trim_around_numeral blank_front blank_back signed ascii]
    exact ⟨sign, digits, rfl, signed, filled, ascii, value⟩
  · intro numeral
    obtain ⟨front, back, same, blank_front, blank_back⟩ := exists_eq_trim t
    exact ⟨front, trim t, back, same, blank_front, blank_back, numeral⟩

/-- What is left after trimming is read just if the text denotes a number within the bound. -/
theorem readUnsigned?_trim_eq_some_iff :
    readUnsigned? bound (trim t) = some n ↔ Denotes n t ∧ n ≤ bound := by
  rw [denotes_iff, idNumeral_iff, readUnsigned?]
  split
  next read =>
    rw [Option.some.injEq]
    constructor
    · intro same
      exact same ▸ ⟨⟨read.1, rfl⟩, read.2⟩
    · intro denoted
      exact denoted.1.2
  next unread =>
    constructor
    · intro read
      cases read
    · intro denoted
      obtain ⟨⟨digits, rfl⟩, fits⟩ := denoted
      exact absurd ⟨digits, fits⟩ unread

theorem Denotes.unique {other : Nat} (denotes : Denotes n t) (also : Denotes other t) :
    n = other := by
  rw [denotes_iff, idNumeral_iff] at denotes also
  exact denotes.2.symm.trans also.2

/-- Nothing is read just if any number that the text denotes exceeds the bound. -/
theorem readUnsigned?_trim_eq_none_iff :
    readUnsigned? bound (trim t) = none ↔ ∀ n, Denotes n t → bound < n := by
  rw [Option.eq_none_iff_forall_ne_some]
  simp only [ne_eq, readUnsigned?_trim_eq_some_iff, not_and, Nat.not_le]

end Numeral

namespace Reading
open Numeral

variable {κ : Type} [CodeTable κ] {n : Nat} {t : Text}

theorem ofValue_text_of_denotes (denotes : Denotes n t) (fits : n < 2 ^ 64) :
    (ofValue (.text t) : Reading κ) = .ofCode (UInt64.ofNat n) := by
  have read : readUnsigned? maxCode (Text.trim t) = some n :=
    readUnsigned?_trim_eq_some_iff.2 ⟨denotes, Nat.le_of_lt_succ fits⟩
  simp only [ofValue, read]

theorem ofValue_text_of_beyond (beyond : ∀ n, Denotes n t → 2 ^ 64 ≤ n) :
    (ofValue (.text t) : Reading κ) = .unparsed t := by
  have unread : readUnsigned? maxCode (Text.trim t) = none :=
    readUnsigned?_trim_eq_none_iff.2 beyond
  simp only [ofValue, unread]

/-- A text that denotes a number of sixty-four bits is read as its code, against the types and the
statuses of queries alike. One that denotes a larger number or none is kept as it came. -/
theorem text_reads_as_the_code_it_denotes (t : Text) :
    (∀ n, Denotes n t → n < 2 ^ 64 →
      (ofValue (.text t) : Reading QueryType) = .ofCode (UInt64.ofNat n) ∧
        (ofValue (.text t) : Reading QueryStatus) = .ofCode (UInt64.ofNat n)) ∧
      (∀ n, Denotes n t → 2 ^ 64 ≤ n →
        (ofValue (.text t) : Reading QueryType) = .unparsed t ∧
          (ofValue (.text t) : Reading QueryStatus) = .unparsed t) ∧
      ((∀ n, ¬Denotes n t) →
        (ofValue (.text t) : Reading QueryType) = .unparsed t ∧
          (ofValue (.text t) : Reading QueryStatus) = .unparsed t) := by
  refine ⟨fun n denotes fits => ?_, fun n denotes large => ?_, fun none => ?_⟩
  · exact ⟨ofValue_text_of_denotes denotes fits, ofValue_text_of_denotes denotes fits⟩
  · have beyond : ∀ other, Denotes other t → 2 ^ 64 ≤ other := by
      intro other also
      exact denotes.unique also ▸ large
    exact ⟨ofValue_text_of_beyond beyond, ofValue_text_of_beyond beyond⟩
  · have beyond : ∀ n, Denotes n t → 2 ^ 64 ≤ n := fun n denotes => absurd denotes (none n)
    exact ⟨ofValue_text_of_beyond beyond, ofValue_text_of_beyond beyond⟩

/-- Zeros do not count, one more than the largest code is too much, and a text that is not read
keeps its white space. -/
theorem text_reads_as_the_code_it_denotes_up_to_the_largest :
    let padded : Text := "\u3000+".toList ++ (List.replicate 30 '0' ++ "28".toList) ++ ['\n']
    let large : Text := "018446744073709551616 ".toList
    let negative : Text := " -1".toList
    Denotes 28 padded ∧ Denotes (2 ^ 64) large ∧ (∀ n, ¬Denotes n negative) ∧
      (ofValue (.text padded) : Reading QueryType) = .listed .aaaa ∧
      (ofValue (.text large) : Reading QueryType) = .unparsed large ∧
      (ofValue (.text negative) : Reading QueryStatus) = .unparsed negative := by
  intro padded large negative
  have spelled : Denotes 28 padded := by
    rw [denotes_iff, CommandLine.idNumeral_iff]
    decide
  have beyond : Denotes (2 ^ 64) large := by
    rw [denotes_iff, CommandLine.idNumeral_iff]
    decide
  have none : ∀ n, ¬Denotes n negative := by
    intro n denotes
    rw [denotes_iff, CommandLine.idNumeral_iff] at denotes
    exact absurd denotes.1 (by decide)
  refine ⟨spelled, beyond, none, ?_, ?_, ?_⟩
  · exact ((text_reads_as_the_code_it_denotes padded).1 28 spelled (by decide)).1.trans (by decide)
  · exact ((text_reads_as_the_code_it_denotes large).2.1 (2 ^ 64) beyond (by decide)).1
  · exact ((text_reads_as_the_code_it_denotes negative).2.2 none).2

end Reading
end QueryWatch
