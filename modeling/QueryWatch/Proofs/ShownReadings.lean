import QueryWatch.Proofs.NumericProperties

/-!
# What is shown of a reading

A reading is shown as a label of its table or as something in parentheses behind a word, and both
an unlisted code and a text that was not parsed may stand behind the same word. What is shown
tells readings apart all the same. Labels are distinct and have no parenthesis, the word ends at
the first one, and what stands behind it cannot be both: a text that is the decimal form of a code
would have been read as that code. This is not so of verbatim readings, which may show anything.
-/
namespace QueryWatch

/-- A table whose labels tell its entries apart and hold no parenthesis. -/
class LegibleTable (κ : Type) [CodeTable κ] : Prop where
  filled : ∀ entry : κ, CodeTable.label entry ≠ []
  bare : ∀ entry : κ, '(' ∉ CodeTable.label entry
  bare_word : '(' ∉ CodeTable.unlistedWord κ
  distinct : ∀ one other : κ, CodeTable.label one = CodeTable.label other → one = other

instance : LegibleTable QueryType where
  filled entry := by cases entry <;> decide
  bare entry := by cases entry <;> decide
  bare_word := by decide
  distinct one other := by cases one <;> cases other <;> decide

instance : LegibleTable QueryStatus where
  filled entry := by cases entry <;> decide
  bare entry := by cases entry <;> decide
  bare_word := by decide
  distinct one other := by cases one <;> cases other <;> decide

namespace Numeral

theorem spells_decimal (n : Nat) : Spells n (decimal n) :=
  ⟨[], [], 0, [], by simp, .inl rfl, by simp, by simp⟩

theorem decimal_injective {n m : Nat} (same : decimal n = decimal m) : n = m := by
  calc n = digitsValue (decimal n) := (digitsValue_replicate_append_decimal 0 n).symm
    _ = digitsValue (decimal m) := by rw [same]
    _ = m := digitsValue_replicate_append_decimal 0 m

end Numeral

/-- A value that is read against a table, rather than shown verbatim. -/
inductive Value.Readable : Value → Prop
  | number (n : UInt64) : Readable (.number n)
  | text (t : Text) : Readable (.text t)

namespace Reading

theorem parenthesised_eq (word t : Text) : parenthesised word t = word ++ '(' :: (t ++ [')']) := by
  simp [parenthesised]

/-- The word ends at the first parenthesis. -/
theorem parenthesised_inj {word other t u : Text} (bare : '(' ∉ word) (also : '(' ∉ other)
    (same : parenthesised word t = parenthesised other u) : word = other ∧ t = u := by
  have front {w : Text} (rest : Text) (none : '(' ∉ w) :
      (w ++ '(' :: rest).takeWhile (· != '(') = w := by
    rw [List.takeWhile_append_of_pos (Text.bne_of_not_mem none)]
    simp
  rw [parenthesised_eq, parenthesised_eq] at same
  have words : word = other := by
    calc word = (word ++ '(' :: (t ++ [')'])).takeWhile (· != '(') := (front _ bare).symm
      _ = (other ++ '(' :: (u ++ [')'])).takeWhile (· != '(') := by rw [same]
      _ = other := front _ also
  subst words
  have behind : t ++ [')'] = u ++ [')'] := (List.cons.inj (List.append_cancel_left same)).2
  exact ⟨rfl, List.append_cancel_right behind⟩

variable {κ : Type} [CodeTable κ]

/-- Readings of what is readable. A text that was not parsed is the decimal form of no code. -/
inductive Told : Reading κ → Prop
  | listed (entry : κ) : Told (.listed entry)
  | unlisted (code : UInt64) : Told (.unlisted code)
  | unparsed {t : Text} (no_code : ∀ code : UInt64, t ≠ Numeral.decimal code.toNat) :
      Told (.unparsed t)

theorem told_ofCode (code : UInt64) : Told (ofCode code : Reading κ) := by
  unfold ofCode
  split
  next entry _ => exact .listed entry
  next => exact .unlisted code

theorem told_ofValue {v : Value} (readable : v.Readable) : Told (ofValue v : Reading κ) := by
  cases readable with
  | number n => exact told_ofCode n
  | text t =>
    cases result : Numeral.readUnsigned? maxCode (Text.trim t) with
    | some code =>
      simp only [ofValue, result]
      exact told_ofCode (UInt64.ofNat code)
    | none =>
      simp only [ofValue, result]
      apply Told.unparsed
      -- The decimal form of a code would have been read as the code.
      intro code same
      have bound : code.toNat ≤ maxCode := Nat.le_of_lt_succ code.toNat_lt
      have read := (Numeral.spells_decimal code.toNat).readUnsigned? bound
      rw [← same, result] at read
      cases read

variable [LegibleTable κ]

theorem label_ne_parenthesised (entry : κ) (word t : Text) :
    CodeTable.label entry ≠ parenthesised word t := by
  intro same
  have bare := LegibleTable.bare entry
  rw [same, parenthesised_eq] at bare
  exact bare (by simp)

theorem shown_unlisted_ne_unparsed (code : UInt64) {t : Text}
    (no_code : ∀ code : UInt64, t ≠ Numeral.decimal code.toNat) :
    shown (.unlisted code : Reading κ) ≠ shown (.unparsed t : Reading κ) := by
  intro same
  obtain ⟨-, inside⟩ := parenthesised_inj LegibleTable.bare_word (by decide) same
  exact no_code code inside.symm

/-- What is shown tells readings apart. -/
theorem Told.shown_inj {one other : Reading κ} (told : Told one) (also : Told other)
    (same : one.shown = other.shown) : one = other := by
  cases told with
  | listed entry =>
    cases also with
    | listed second => exact congrArg Reading.listed (LegibleTable.distinct entry second same)
    | unlisted code => exact absurd same (label_ne_parenthesised _ _ _)
    | unparsed _ => exact absurd same (label_ne_parenthesised _ _ _)
  | unlisted code =>
    cases also with
    | listed entry => exact absurd same.symm (label_ne_parenthesised _ _ _)
    | unlisted second =>
      obtain ⟨-, digits⟩ :=
        parenthesised_inj LegibleTable.bare_word LegibleTable.bare_word same
      exact congrArg Reading.unlisted (UInt64.toNat_inj.1 (Numeral.decimal_injective digits))
    | unparsed no_code => exact absurd same (shown_unlisted_ne_unparsed code no_code)
  | unparsed no_code =>
    cases also with
    | listed entry => exact absurd same.symm (label_ne_parenthesised _ _ _)
    | unlisted code => exact absurd same.symm (shown_unlisted_ne_unparsed code no_code)
    | unparsed _ =>
      have bare : '(' ∉ unknownWord := by decide
      exact congrArg Reading.unparsed (parenthesised_inj bare bare same).2

/-- A verbatim reading may look like a label. -/
example : shown (ofValue (.other "A".toList) : Reading QueryType) =
    shown (ofValue (.number 1) : Reading QueryType) := by
  decide

theorem shown_ne_nil (reading : Reading κ) : reading.shown ≠ [] := by
  have parentheses (word t : Text) : parenthesised word t ≠ [] := by simp [parenthesised]
  cases reading with
  | listed entry => exact LegibleTable.filled entry
  | unlisted code => exact parentheses _ _
  | unparsed t => exact parentheses _ _
  | verbatim t =>
    cases t with
    | nil => exact parentheses _ _
    | cons c rest => exact List.cons_ne_nil c rest

theorem shown_ofValue_iff {v w : Value} (readable : v.Readable) (also : w.Readable) :
    shown (ofValue v : Reading κ) = shown (ofValue w : Reading κ) ↔
      (ofValue v : Reading κ) = ofValue w :=
  ⟨(told_ofValue readable).shown_inj (told_ofValue also), congrArg shown⟩

/-- No type or status is shown blank, and two that come from numbers or texts are shown alike
only if they are the same. -/
theorem shown_is_filled_and_tells_apart :
    (∀ v : Value, shown (ofValue v : Reading QueryType) ≠ [] ∧
      shown (ofValue v : Reading QueryStatus) ≠ []) ∧
      ∀ v w : Value, v.Readable → w.Readable →
        (shown (ofValue v : Reading QueryType) = shown (ofValue w : Reading QueryType) ↔
          (ofValue v : Reading QueryType) = ofValue w) ∧
        (shown (ofValue v : Reading QueryStatus) = shown (ofValue w : Reading QueryStatus) ↔
          (ofValue v : Reading QueryStatus) = ofValue w) :=
  ⟨fun _ => ⟨shown_ne_nil _, shown_ne_nil _⟩,
    fun _ _ readable also => ⟨shown_ofValue_iff readable also, shown_ofValue_iff readable also⟩⟩

/-- A code is shown as the same code in another spelling, and not as a text that looks like it. -/
theorem shown_code_is_told_from_its_look :
    let code : Value := .number 65
    let spelled : Value := .text " +065 ".toList
    let look : Value := .text "UNKNOWN(65)".toList
    code.Readable ∧ spelled.Readable ∧ look.Readable ∧
      (ofValue code : Reading QueryType) = ofValue spelled ∧
      shown (ofValue code : Reading QueryType) = "UNKNOWN(65)".toList ∧
      shown (ofValue look : Reading QueryType) ≠ shown (ofValue code : Reading QueryType) ∧
      shown (ofValue look : Reading QueryStatus) ≠ [] := by
  intro code spelled look
  obtain ⟨filled, apart⟩ := shown_is_filled_and_tells_apart
  have differ : (ofValue look : Reading QueryType) ≠ ofValue code := by decide
  refine ⟨.number _, .text _, .text _, ?_, by decide, ?_, (filled look).2⟩
  · exact (apart code spelled (.number _) (.text _)).1.1 (by decide)
  · exact fun same => differ ((apart look code (.text _) (.number _)).1.1 same)

end Reading
end QueryWatch
