import QueryWatch.Admission
import QueryWatch.Proofs.LetterCase
import QueryWatch.Proofs.QuestionGrammar
import QueryWatch.Proofs.Samples
import QueryWatch.Query.OfCapture

/-!
# Messages in mixed case

A sender is free to choose the case of the letters in a name. A message that is changed in
the case of letters inside of its labels, and nowhere else, keeps the lengths of its labels
and so is cut into labels at the same places. It asks for the same type, its name is the
same up to the case of letters, and as admission looks at the lower-case form of a name
alone, it is judged as the original is.
-/
namespace QueryWatch

/-- Two strings of bytes differ at most at the marked places. -/
def DifferOnlyAt (places : List Bool) (bytes others : Octets) : Prop :=
  ∀ i : Nat, others[i]? ≠ bytes[i]? → places[i]? = some true

namespace DifferOnlyAt
variable {places : List Bool} {bytes others : Octets}

theorem eq_at (differ : DifferOnlyAt places bytes others) {i : Nat}
    (unmarked : places[i]? ≠ some true) : others[i]? = bytes[i]? := by
  by_contra different
  exact unmarked (differ i different)

theorem drop (differ : DifferOnlyAt places bytes others) (n : Nat) :
    DifferOnlyAt (places.drop n) (bytes.drop n) (others.drop n) := by
  intro i different
  rw [List.getElem?_drop, List.getElem?_drop] at different
  rw [List.getElem?_drop]
  exact differ _ different

theorem eq_of_nil (differ : DifferOnlyAt [] bytes others) : others = bytes :=
  List.ext_getElem? fun _ => differ.eq_at (by simp)

theorem iff_forall_lt : DifferOnlyAt places bytes others ↔
    ∀ i < max bytes.length others.length, others[i]? ≠ bytes[i]? → places[i]? = some true := by
  constructor
  · intro differ i _
    exact differ i
  · intro differ i different
    by_cases within : i < max bytes.length others.length
    · exact differ i within different
    · obtain ⟨end_bytes, end_others⟩ := Nat.max_le.1 (Nat.not_lt.1 within)
      rw [List.getElem?_eq_none end_bytes, List.getElem?_eq_none end_others] at different
      exact absurd rfl different

instance : Decidable (DifferOnlyAt places bytes others) :=
  decidable_of_iff _ iff_forall_lt.symm

end DifferOnlyAt

namespace Question

/-- The places of label bytes among written labels. A length byte is none. -/
def bodyPlaces (labels : List Octets) : List Bool :=
  labels.flatMap fun label => false :: List.replicate label.length true

/-- The places of label bytes in a message. -/
def labelPlaces (message : Octets) : List Bool :=
  match readLabels? (message.drop 12) with
  | some (labels, _) => List.replicate 12 false ++ bodyPlaces labels
  | none => []

/-- Another message whose letters may have other cases inside of labels, and which is equal
everywhere else. -/
structure Recased (message other : Octets) : Prop where
  letters : other.map lowerByte = message.map lowerByte
  inside : DifferOnlyAt (labelPlaces message) message other

/-- Labels that are changed only in case are cut at the same places. -/
theorem exists_recased_labels {labels : List Octets} {tail others : Octets}
    (letters : others.map lowerByte = (labels.flatMap writeLabel ++ tail).map lowerByte)
    (inside : DifferOnlyAt (bodyPlaces labels) (labels.flatMap writeLabel ++ tail) others) :
    ∃ recased : List Octets, others = recased.flatMap writeLabel ++ tail ∧
      recased.map (List.map lowerByte) = labels.map (List.map lowerByte) := by
  induction labels generalizing others with
  | nil => exact ⟨[], inside.eq_of_nil, rfl⟩
  | cons label labels ih =>
    rw [List.flatMap_cons, List.append_assoc] at letters inside
    have marked : bodyPlaces (label :: labels)
        = (false :: List.replicate label.length true) ++ bodyPlaces labels := rfl
    rw [marked] at inside
    have length_byte : others[0]? = some (UInt8.ofNat label.length) := inside.eq_at (by simp)
    obtain ⟨others, rfl⟩ : ∃ after, others = UInt8.ofNat label.length :: after := by
      cases others with
      | nil => simp at length_byte
      | cons first after => exact ⟨after, by simpa using length_byte⟩
    have later := inside.drop (label.length + 1)
    rw [List.drop_left' (by simp), List.drop_left' (by simp [writeLabel]),
      List.drop_succ_cons] at later
    rw [writeLabel, List.cons_append, List.map_cons, List.map_cons, List.map_append] at letters
    have split := (List.cons.inj letters).2
    have front : (others.take label.length).map lowerByte = label.map lowerByte := by
      rw [List.map_take, split, List.take_left' (List.length_map _)]
    have back : (others.drop label.length).map lowerByte
        = (labels.flatMap writeLabel ++ tail).map lowerByte := by
      rw [List.map_drop, split, List.drop_left' (List.length_map _)]
    obtain ⟨recased, same, recased_letters⟩ := ih back later
    have width : (others.take label.length).length = label.length := by
      simpa using congrArg List.length front
    refine ⟨others.take label.length :: recased, ?_, ?_⟩
    · rw [List.flatMap_cons, List.append_assoc, ← same, writeLabel, width, List.cons_append,
        List.take_append_drop]
    · rw [List.map_cons, List.map_cons, front, recased_letters]

section
variable {message other : Octets} {labels recased : List Octets} {question : Question}

theorem Asks.labelPlaces_eq (asks : Asks message labels question) :
    labelPlaces message = List.replicate 12 false ++ bodyPlaces labels := by
  obtain ⟨high, low, rest, body, -⟩ := asks.body
  rw [labelPlaces, body, readLabels?_write asks.valid]

theorem valid_of_recased (same : recased.map (List.map lowerByte) = labels.map (List.map lowerByte))
    (valid : ∀ label ∈ labels, ValidLabel label) : ∀ label ∈ recased, ValidLabel label := by
  intro label member
  have image : label.map lowerByte ∈ labels.map (List.map lowerByte) :=
    same ▸ List.mem_map_of_mem member
  obtain ⟨original, original_member, letters⟩ := List.mem_map.1 image
  have length : original.length = label.length := by simpa using congrArg List.length letters
  obtain ⟨filled, short⟩ := valid original original_member
  refine ⟨?_, length ▸ short⟩
  rintro rfl
  exact filled (List.length_eq_zero_iff.1 length)

/-- The letters of a name are those of its labels. -/
theorem map_toLower_join (labels : List Octets) :
    (Text.join ['.'] (labels.map Utf8.decodeLossy)).map Char.toLower
      = Text.join ['.'] ((labels.map (List.map lowerByte)).map Utf8.decodeLossy) := by
  have letters : List.map Char.toLower ∘ Utf8.decodeLossy
      = Utf8.decodeLossy ∘ List.map lowerByte :=
    funext fun label => (Utf8.decodeLossy_map_lowerByte label).symm
  rw [Text.map_join, List.map_map, List.map_map, letters]
  rfl

/-- A message in other cases asks through labels in other cases. -/
theorem Asks.of_recased (asks : Asks message labels question) (changed : Recased message other) :
    ∃ others question', Asks other others question' ∧
      question'.typeCode = question.typeCode ∧
      question'.name.map Char.toLower = question.name.map Char.toLower := by
  obtain ⟨high, low, rest, body, code⟩ := asks.body
  have inside := changed.inside
  rw [asks.labelPlaces_eq] at inside
  have length : other.length = message.length := by
    simpa using congrArg List.length changed.letters
  have flags : other[2]? = message[2]? := inside.eq_at (by simp)
  have letters := congrArg (List.drop 12) changed.letters
  rw [← List.map_drop, ← List.map_drop, body] at letters
  have later := inside.drop 12
  rw [List.drop_left' (List.length_replicate ..), body] at later
  obtain ⟨others, other_body, same⟩ := exists_recased_labels letters later
  refine ⟨others, ⟨Text.join ['.'] (others.map Utf8.decodeLossy), question.typeCode⟩,
    ⟨length ▸ asks.header, ?_, ?_, valid_of_recased same asks.valid,
      ⟨high, low, rest, other_body, code⟩, rfl⟩, rfl, ?_⟩
  · rw [List.getD_eq_getElem?_getD, flags, ← List.getD_eq_getElem?_getD]
    exact asks.query
  · rintro rfl
    exact asks.labelled (List.map_eq_nil_iff.1 same.symm)
  · rw [asks.name, map_toLower_join, map_toLower_join, same]

end
end Question

namespace Admission

/-- Admission looks at the event id and at the lower-case form of the name. -/
theorem rejection?_congr (admission : Admission) {query other : Query}
    (id : other.eventId = query.eventId) (name : Text.lower other.name = Text.lower query.name) :
    admission.rejection? other = admission.rejection? query := by
  rw [rejection?, rejection?, denies, denies, id, name]

end Admission

namespace Question

/-- A message in other cases of letters asks for the same type and a name that is the same up
to the case of letters, and whoever sends either of them when, every admission judges the two
queries alike. -/
theorem mixed_case_is_judged_alike {message other : Octets} {question : Question}
    (read : read? message = some question) (changed : Recased message other) :
    ∃ question', read? other = some question' ∧ question'.typeCode = question.typeCode ∧
      question'.name.map Char.toLower = question.name.map Char.toLower ∧
      ∀ (packet packet' : Packet) (now now' : Instant),
        packet.payload = message → packet'.payload = other →
        ∃ query query', Query.ofPacket? now packet = some query ∧
          Query.ofPacket? now' packet' = some query' ∧
          ∀ admission : Admission, admission.rejection? query' = admission.rejection? query := by
  obtain ⟨labels, asks⟩ := exists_asks_of_read? read
  obtain ⟨others, question', asks', type, name⟩ := asks.of_recased changed
  refine ⟨question', asks'.read?, type, name, ?_⟩
  rintro packet packet' now now' rfl rfl
  refine ⟨_, _, congrArg (Option.map _) read, congrArg (Option.map _) asks'.read?, ?_⟩
  intro admission
  exact admission.rejection?_congr rfl (Text.lower_eq_of_map_toLower_eq name)

/-- The sample packet with a message that asks for the address of a name. -/
def addressPacket (labels : List Octets) : Packet :=
  { Packet.samplePacket with payload := List.replicate headerLength 0 ++ write labels 1 }

/-- A sigma between two letters, and a letter that breaks off a longer character. -/
theorem mixed_case_name_stays_denied :
    let packet := addressPacket [[0x41, 0xCE, 0xA3, 0x73], [0xE2, 0x4E]]
    let packet' := addressPacket [[0x61, 0xCE, 0xA3, 0x53], [0xE2, 0x6E]]
    read? packet.payload = some ⟨"AΣs.\uFFFDN".toList, 1⟩ ∧
      Recased packet.payload packet'.payload ∧
      ∃ query query', Query.ofPacket? ⟨0, 0⟩ packet = some query ∧
        Query.ofPacket? ⟨0, 0⟩ packet' = some query' ∧
        (Admission.ofRules [.deny "ΣS".toList]).rejection? query = some .domainDenied ∧
        (Admission.ofRules [.deny "ΣS".toList]).rejection? query' = some .domainDenied := by
  intro packet packet'
  have read : read? packet.payload = some ⟨"AΣs.\uFFFDN".toList, 1⟩ := by decide +kernel
  have changed : Recased packet.payload packet'.payload := ⟨by decide +kernel, by decide +kernel⟩
  have denied : (Query.ofPacket? ⟨0, 0⟩ packet).map
      (Admission.ofRules [.deny "ΣS".toList]).rejection? = some (some .domainDenied) := by
    decide +kernel
  obtain ⟨question, -, -, -, judged⟩ := mixed_case_is_judged_alike read changed
  obtain ⟨query, query', decoded, decoded', alike⟩ :=
    judged packet packet' ⟨0, 0⟩ ⟨0, 0⟩ rfl rfl
  rw [decoded] at denied
  have refused := Option.some.inj denied
  exact ⟨read, changed, query, query', decoded, decoded', refused, (alike _).trans refused⟩

end Question
end QueryWatch
