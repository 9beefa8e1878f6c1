import Mathlib.Data.Set.Subsingleton
import QueryWatch.Question

/-!
# The grammar of questions

The reader of labels accepts exactly what the writer of labels produces, and
hands back what follows. Hence a message is read as a question in exactly one
way, or not at all: it has a header of a query, then one or more labels, a zero
byte and the two bytes of the type, and anything after them.

The name is built from left to right and tests whether it is still empty before
it sets a dot. The test never misleads: bytes that are not empty never decode
to the empty text, so only the first label meets an empty name.
-/
namespace QueryWatch.Question

theorem toNat_ofNat_length {label : Octets} (h : ValidLabel label) :
    (UInt8.ofNat label.length).toNat = label.length := by
  have bound := h.2
  simp only [UInt8.toNat_ofNat']
  omega

theorem length_byte_ne_zero {label : Octets} (h : ValidLabel label) :
    UInt8.ofNat label.length ≠ 0 := by
  intro zero
  have length := toNat_ofNat_length h
  rw [zero] at length
  exact h.1 (List.length_eq_zero_iff.1 length.symm)

theorem readLabels?_end (rest : Octets) : readLabels? (0 :: rest) = some ([], rest) := by
  rw [readLabels?]
  simp

/-- A written label is read back, whatever follows it. -/
theorem readLabels?_writeLabel {label : Octets} (h : ValidLabel label) (bytes : Octets) :
    readLabels? (writeLabel label ++ bytes) =
      (readLabels? bytes).map fun (labels, after) => (label :: labels, after) := by
  have short : ¬maxLabelLength < label.length := Nat.not_lt.2 h.2
  rw [writeLabel, List.cons_append, readLabels?]
  simp only [toNat_ofNat_length h, length_byte_ne_zero h, List.take_left, List.drop_left,
    short, if_false, false_or, lt_irrefl]

/-- Written labels are read back with what follows their end. -/
theorem readLabels?_write {labels : List Octets} (valid : ∀ label ∈ labels, ValidLabel label)
    (rest : Octets) :
    readLabels? (labels.flatMap writeLabel ++ 0 :: rest) = some (labels, rest) := by
  induction labels with
  | nil => exact readLabels?_end rest
  | cons label labels ih =>
    obtain ⟨first, others⟩ := List.forall_mem_cons.1 valid
    rw [List.flatMap_cons, List.append_assoc, readLabels?_writeLabel first, ih others]
    rfl

/-- Labels that were read had been written. -/
theorem eq_write_of_readLabels? {bytes rest : Octets} {labels : List Octets}
    (read : readLabels? bytes = some (labels, rest)) :
    (∀ label ∈ labels, ValidLabel label) ∧
      bytes = labels.flatMap writeLabel ++ 0 :: rest := by
  fun_induction readLabels? bytes generalizing labels
  case case1 => simp at read
  case case2 after =>
    obtain ⟨rfl, rfl⟩ := Prod.mk.inj (Option.some.inj read)
    simp
  case case3 => simp at read
  case case4 length after label nonzero fits ih =>
    obtain ⟨⟨others, tail⟩, found, same⟩ := Option.map_eq_some_iff.1 read
    obtain ⟨rfl, rfl⟩ := Prod.mk.inj same
    obtain ⟨valid, split⟩ := ih found
    obtain ⟨short, whole⟩ := not_or.1 fits
    have exact_length : label.length = length.toNat :=
      le_antisymm (List.length_take_le _ _) (Nat.not_lt.1 whole)
    have first : ValidLabel label := by
      refine ⟨?_, exact_length.trans_le (Nat.not_lt.1 short)⟩
      intro empty
      rw [empty] at exact_length
      exact nonzero (UInt8.toNat_inj.1 exact_length.symm)
    refine ⟨List.forall_mem_cons.2 ⟨first, valid⟩, ?_⟩
    rw [List.flatMap_cons, List.append_assoc, ← split, writeLabel, exact_length,
      UInt8.ofNat_toNat, List.cons_append, List.take_append_drop]

theorem readLabels?_eq_some_iff {bytes rest : Octets} {labels : List Octets} :
    readLabels? bytes = some (labels, rest) ↔
      (∀ label ∈ labels, ValidLabel label) ∧
        bytes = labels.flatMap writeLabel ++ 0 :: rest := by
  constructor
  · exact eq_write_of_readLabels?
  · rintro ⟨valid, rfl⟩
    exact readLabels?_write valid rest

theorem extendName_ne_nil (name : Text) {label : Octets} (h : label ≠ []) :
    extendName name label ≠ [] := by
  unfold extendName
  split_ifs with empty
  · exact mt Utf8.decodeLossy_eq_nil_iff.1 h
  · simp

/-- After a first label every further one is set off by a dot. -/
theorem foldl_extendName (name : Text) {labels : List Octets} (started : name ≠ [])
    (filled : ∀ label ∈ labels, label ≠ []) :
    labels.foldl extendName name = Text.join ['.'] (name :: labels.map Utf8.decodeLossy) := by
  induction labels generalizing name with
  | nil => rfl
  | cons label labels ih =>
    obtain ⟨first, others⟩ := List.forall_mem_cons.1 filled
    rw [List.foldl_cons, ih _ (extendName_ne_nil name first) others]
    cases labels <;> simp [extendName, started, Text.join]

/-- The name of labels that are not empty joins them by dots. -/
theorem nameOf_eq_join {labels : List Octets} (filled : ∀ label ∈ labels, label ≠ []) :
    nameOf labels = Text.join ['.'] (labels.map Utf8.decodeLossy) := by
  cases labels with
  | nil => rfl
  | cons label labels =>
    obtain ⟨first, others⟩ := List.forall_mem_cons.1 filled
    have started : extendName [] label ≠ [] := extendName_ne_nil [] first
    rw [nameOf, List.foldl_cons, foldl_extendName _ started others]
    simp [extendName]

/-- Only the root alone has no name. -/
theorem nameOf_eq_nil_iff {labels : List Octets} (filled : ∀ label ∈ labels, label ≠ []) :
    nameOf labels = [] ↔ labels = [] := by
  cases labels with
  | nil => simp [nameOf]
  | cons label labels =>
    have first := mt Utf8.decodeLossy_eq_nil_iff.1 (List.forall_mem_cons.1 filled).1
    rw [nameOf_eq_join filled]
    cases labels <;> simp [Text.join, first]

/-- A message asks a question through a list of labels: it has a header of twelve
bytes whose response bit is clear, and the labels, the end and the type follow. -/
structure Asks (message : Octets) (labels : List Octets) (question : Question) : Prop where
  header : 12 ≤ message.length
  query : (message.getD 2 0).toNat.testBit 7 = false
  labelled : labels ≠ []
  valid : ∀ label ∈ labels, ValidLabel label
  body : ∃ high low rest,
    message.drop 12 = labels.flatMap writeLabel ++ 0 :: high :: low :: rest ∧
      question.typeCode.toNat = 256 * high.toNat + low.toNat
  name : question.name = Text.join ['.'] (labels.map Utf8.decodeLossy)

theorem isResponse_eq_testBit (message : Octets) :
    isResponse message = (message.getD 2 0).toNat.testBit 7 := by
  have bound := (message.getD 2 0).toNat_lt
  rw [isResponse, Nat.testBit_eq_decide_div_mod_eq]
  simp only [decide_eq_decide]
  omega

theorem filled_of_valid {labels : List Octets} (valid : ∀ label ∈ labels, ValidLabel label) :
    ∀ label ∈ labels, label ≠ [] :=
  fun label member => (valid label member).1

theorem typeCode_toNat (high low : UInt8) :
    (UInt16.ofNat (256 * high.toNat + low.toNat)).toNat = 256 * high.toNat + low.toNat := by
  have bound_high := high.toNat_lt
  have bound_low := low.toNat_lt
  simp only [UInt16.toNat_ofNat']
  omega

theorem Asks.name_ne_nil {message : Octets} {labels : List Octets} {question : Question}
    (asks : Asks message labels question) : question.name ≠ [] := by
  have filled := filled_of_valid asks.valid
  rw [asks.name, ← nameOf_eq_join filled]
  exact mt (nameOf_eq_nil_iff filled).1 asks.labelled

theorem Asks.read? {message : Octets} {labels : List Octets} {question : Question}
    (asks : Asks message labels question) : read? message = some question := by
  obtain ⟨high, low, rest, body, code⟩ := asks.body
  have filled := filled_of_valid asks.valid
  have same_name : nameOf labels = question.name := by
    rw [nameOf_eq_join filled, asks.name]
  have accepted : ¬(message.length < headerLength ∨ isResponse message = true) := by
    rw [isResponse_eq_testBit, asks.query]
    simp [headerLength, asks.header]
  have same_code : UInt16.ofNat (256 * high.toNat + low.toNat) = question.typeCode := by
    rw [← code, UInt16.ofNat_toNat]
  rw [Question.read?, if_neg accepted, headerLength, body, readLabels?_write asks.valid]
  simp only [same_name, same_code, if_neg asks.name_ne_nil]

theorem exists_asks_of_read? {message : Octets} {question : Question}
    (read : read? message = some question) : ∃ labels, Asks message labels question := by
  unfold Question.read? at read
  split_ifs at read with refused
  obtain ⟨long, query⟩ := not_or.1 refused
  split at read
  next labels high low rest found =>
    split_ifs at read with unnamed
    obtain ⟨valid, body⟩ := readLabels?_eq_some_iff.1 found
    have filled := filled_of_valid valid
    obtain rfl := Option.some.inj read
    refine ⟨labels, Nat.not_lt.1 long, ?_, mt (nameOf_eq_nil_iff filled).2 unnamed, valid,
      ⟨high, low, rest, body, typeCode_toNat high low⟩, nameOf_eq_join filled⟩
    rw [← isResponse_eq_testBit]
    exact eq_false_of_ne_true query
  next => simp at read

/-- The labels of a message do not depend on the question it is taken to ask. -/
theorem Asks.labels_unique {message : Octets} {labels others : List Octets}
    {question other : Question} (asks : Asks message labels question)
    (asks_other : Asks message others other) : labels = others := by
  obtain ⟨high, low, rest, body, -⟩ := asks.body
  obtain ⟨high', low', rest', body', -⟩ := asks_other.body
  have first := readLabels?_eq_some_iff.2 ⟨asks.valid, body⟩
  have second := readLabels?_eq_some_iff.2 ⟨asks_other.valid, body'⟩
  rw [first] at second
  exact (Prod.mk.inj (Option.some.inj second)).1

/-- A message is read as a question exactly if it asks that question, it is
refused exactly if it asks none, and it asks through one list of labels only. -/
theorem read?_accepts_exactly_grammar (message : Octets) :
    (∀ question, read? message = some question ↔ ∃ labels, Asks message labels question) ∧
      (read? message = none ↔ ∀ question labels, ¬Asks message labels question) ∧
      {labels | ∃ question, Asks message labels question}.Subsingleton := by
  have accepted : ∀ question,
      read? message = some question ↔ ∃ labels, Asks message labels question :=
    fun question => ⟨exists_asks_of_read?, fun ⟨_, asks⟩ => asks.read?⟩
  refine ⟨accepted, ?_, ?_⟩
  · rw [Option.eq_none_iff_forall_ne_some]
    constructor
    · intro refused question labels asks
      exact refused question asks.read?
    · intro silent question read
      obtain ⟨labels, asks⟩ := exists_asks_of_read? read
      exact silent question labels asks
  · rintro labels ⟨question, asks⟩ others ⟨other, asks_other⟩
    exact asks.labels_unique asks_other

example :
    read? (List.replicate headerLength 0 ++ [1, 0x61, 2, 0xc3, 0xa9, 0, 0, 28, 7])
      = some ⟨"a.é".toList, 28⟩ := by
  cbv

end QueryWatch.Question
