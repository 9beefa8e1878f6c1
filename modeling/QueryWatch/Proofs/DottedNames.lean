import QueryWatch.Proofs.Truncation

/-!
# Names and the labels they are made of

A name is its labels with dots between them, each label read as text. Where the labels are
text in UTF-8 to begin with, reading loses nothing, and where none of them holds a dot, the dots
of the name are the ones that were set between labels. Such a name can be cut at its dots, and
the pieces, written again, are the labels. So a message whose labels are of this kind is known by
the question that it asks, up to its header and to what follows the question.

The cut of an empty name is one empty piece. It belongs to no message, since a message that asks
a question has a label, and no label is empty.
-/
namespace QueryWatch.Question

/-- The byte of a dot in UTF-8. -/
def dotByte : UInt8 := 0x2E

/-- A label that its name shows as it is: it is text, and no dot is inside. -/
structure PlainLabel (label : Octets) : Prop where
  valid : ValidLabel label
  text : ∃ t, Utf8.encode t = label
  undotted : dotByte ∉ label

/-- The labels of a name: what stands between its dots. -/
def labelsOf (name : Text) : List Octets :=
  (name.splitOn '.').map Utf8.encode

variable {label : Octets} {labels : List Octets}

theorem PlainLabel.encode_decodeLossy (plain : PlainLabel label) :
    Utf8.encode (Utf8.decodeLossy label) = label := by
  obtain ⟨t, rfl⟩ := plain.text
  rw [Utf8.decodeLossy_encode]

theorem PlainLabel.dot_not_mem (plain : PlainLabel label) : '.' ∉ Utf8.decodeLossy label := by
  intro dotted
  have written : dotByte ∈ Utf8.encode (Utf8.decodeLossy label) :=
    List.mem_flatMap.2 ⟨'.', dotted, List.mem_singleton_self dotByte⟩
  rw [plain.encode_decodeLossy] at written
  exact plain.undotted written

/-- A name is cut at its dots into the labels it was made of. -/
theorem labelsOf_join (labelled : labels ≠ []) (plain : ∀ label ∈ labels, PlainLabel label) :
    labelsOf (Text.join ['.'] (labels.map Utf8.decodeLossy)) = labels := by
  have pieces : labels.map Utf8.decodeLossy ≠ [] := mt List.map_eq_nil_iff.1 labelled
  have undotted : ∀ piece ∈ labels.map Utf8.decodeLossy, '.' ∉ piece :=
    List.forall_mem_map.2 fun label member => (plain label member).dot_not_mem
  have whole : labels.map (Utf8.encode ∘ Utf8.decodeLossy) = labels.map id :=
    List.map_congr_left fun label member => (plain label member).encode_decodeLossy
  rw [labelsOf, Text.join_eq_intercalate, List.splitOn_intercalate '.' undotted pieces,
    List.map_map, whole, List.map_id]

theorem typeCode_of_bytes (typeCode : UInt16) :
    typeCode.toNat = 256 * (UInt8.ofNat (typeCode.toNat / 256)).toNat
      + (UInt8.ofNat (typeCode.toNat % 256)).toNat := by
  have bound := typeCode.toNat_lt
  simp only [UInt8.toNat_ofNat']
  omega

/-- A query message in its parts, the labels all plain. -/
structure PlainMessage where
  header : Octets
  labels : List Octets
  typeCode : UInt16
  /-- The class of the question and anything else. -/
  rest : Octets
  header_length : header.length = 12
  query : (header.getD 2 0).toNat.testBit 7 = false
  labelled : labels ≠ []
  plain : ∀ label ∈ labels, PlainLabel label

namespace PlainMessage

def octets (message : PlainMessage) : Octets :=
  message.header ++ (write message.labels message.typeCode ++ message.rest)

def question (message : PlainMessage) : Question where
  name := Text.join ['.'] (message.labels.map Utf8.decodeLossy)
  typeCode := message.typeCode

theorem asks (message : PlainMessage) : Asks message.octets message.labels message.question where
  header := by
    rw [octets, List.length_append, message.header_length]
    exact Nat.le_add_right _ _
  query := by
    rw [octets, getD_two_append message.header_length.ge]
    exact message.query
  labelled := message.labelled
  valid := fun label member => (message.plain label member).valid
  body := by
    refine ⟨_, _, message.rest, ?_, typeCode_of_bytes message.typeCode⟩
    rw [octets, ← message.header_length, List.drop_left, write, List.append_assoc]
    rfl
  name := rfl

theorem labelsOf_name (message : PlainMessage) : labelsOf message.question.name = message.labels :=
  labelsOf_join message.labelled message.plain

/-- The question tells the labels and the type. -/
theorem question_eq_iff (message other : PlainMessage) :
    other.question = message.question ↔
      other.labels = message.labels ∧ other.typeCode = message.typeCode := by
  constructor
  · intro same
    rw [← other.labelsOf_name, ← message.labelsOf_name, same]
    exact ⟨rfl, congrArg Question.typeCode same⟩
  · rintro ⟨labels, typeCode⟩
    rw [question, question, labels, typeCode]

/-- A message of plain labels is read as a question whose name, cut at its dots, gives the labels
back, so that the name and the type can be written as the bytes of the question again. Two such
messages ask the same question exactly if their labels and their types are the same. -/
theorem name_and_type_determine_question (message : PlainMessage) :
    ∃ question, read? message.octets = some question ∧
      labelsOf question.name = message.labels ∧
      question.typeCode = message.typeCode ∧
      message.octets
        = message.header ++ (write (labelsOf question.name) question.typeCode ++ message.rest) ∧
      ∀ other : PlainMessage, read? other.octets = read? message.octets ↔
        other.labels = message.labels ∧ other.typeCode = message.typeCode := by
  refine ⟨message.question, message.asks.read?, message.labelsOf_name, rfl, ?_, fun other => ?_⟩
  · rw [message.labelsOf_name]
    rfl
  · rw [other.asks.read?, message.asks.read?, Option.some.injEq]
    exact message.question_eq_iff other

/-- A message for an accented label and one of the greatest length. -/
def accented : PlainMessage where
  header := List.replicate headerLength 0
  labels := [[0xC3, 0xA9], List.replicate maxLabelLength 0x61]
  typeCode := 28
  rest := [0, 1]
  header_length := rfl
  query := rfl
  labelled := by decide
  plain := by
    intro label member
    obtain rfl | rfl : label = [0xC3, 0xA9] ∨ label = List.replicate maxLabelLength 0x61 := by
      simpa using member
    · exact ⟨by decide, ⟨['é'], by decide⟩, by decide⟩
    · exact ⟨by decide, ⟨List.replicate maxLabelLength 'a', by decide⟩, by decide⟩

theorem accented_name_gives_its_labels_back :
    (∃ question, read? accented.octets = some question ∧
      labelsOf question.name = [[0xC3, 0xA9], List.replicate maxLabelLength 0x61]) ∧
      read? { accented with typeCode := 1 }.octets ≠ read? accented.octets ∧
      read? { accented with rest := [] }.octets = read? accented.octets := by
  obtain ⟨question, read, labels, -, -, same⟩ := name_and_type_determine_question accented
  have other_type : ¬((1 : UInt16) = 28) := by decide
  exact ⟨⟨question, read, labels⟩, fun alike => other_type ((same _).1 alike).2,
    (same _).2 ⟨rfl, rfl⟩⟩

end PlainMessage
end QueryWatch.Question
