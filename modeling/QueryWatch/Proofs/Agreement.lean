import QueryWatch.Proofs.LineFeeds
import QueryWatch.Proofs.LowerForms
import QueryWatch.Proofs.NumericProperties
import QueryWatch.Proofs.ReportFields
import QueryWatch.Trace.Session

/-!
# Packets and reports agree

One query may be seen twice, as a packet and as the event of a trace. The packet has its name
as bytes in labels and its type in two bytes, most significant first; the event has the name
as a string of sixteen-bit units that ends at a zero, and the type as an integer, least
significant byte first. Both are read as the same name and the same type, so that an admission
denies the one name exactly if it denies the other.

This is so for every name that the reader of questions can produce, characters beyond sixteen
bits and stand-ins for damaged bytes included, provided that a report can hold it: a string
ends at its first NUL, and white space around a name in a report is not a part of it.
-/
namespace QueryWatch

/-- A text without NULs and without white space at its ends is clean. -/
theorem Query.text?_of_clean {t : Text} (filled : t ≠ []) (inside : Text.nul ∉ t)
    (trimmed : Text.Trimmed t) : text? (.text t) = some t := by
  have ended : t.getLast? ≠ some Text.nul := fun last => inside (List.mem_of_getLast? last)
  have whole : Text.stripNuls t = t := by
    simpa using Text.stripNuls_append_replicate_nul ended 0
  have cleaned : (Value.text t).cleaned = t := by
    rw [Value.cleaned, Value.shown, whole, trimmed.trim_eq]
  rw [text?, cleaned, if_neg filled]

namespace Trace

/-- A name as a string of sixteen-bit units, the zero that ends it, and anything after. -/
def nameProperty (name : Text) (after : Octets) : Property where
  name := Report.queryName
  wireType := .unicodeString
  isArray := false
  bytes := some (LittleEndian.ofUnits (Utf16.encode name) ++ ([0, 0] ++ after))

/-- A type code as an unsigned integer of sixteen bits. -/
def typeProperty (code : UInt16) : Property where
  name := Report.queryType
  wireType := .uint16
  isArray := false
  bytes := some (LittleEndian.octets 2 code.toNat)

theorem value?_nameProperty {name : Text} (inside : Text.nul ∉ name) (after : Octets) :
    (nameProperty name after).value? = some (.text name) :=
  congrArg some (Value.ofUnicodeText_written inside (.inr ⟨after, rfl⟩))

theorem value?_typeProperty (code : UInt16) :
    (typeProperty code).value? = some (.number code.toUInt64) := by
  have fits : code.toNat < LittleEndian.span 2 := code.toNat_lt
  have width : (LittleEndian.octets 2 code.toNat).length ∈ Value.integerWidths := by
    rw [LittleEndian.length_octets]
    decide
  have same : UInt64.ofNat code.toNat = code.toUInt64 := by
    rw [← UInt16.toNat_toUInt64, UInt64.ofNat_toNat]
  change Value.ofUnsigned? (LittleEndian.octets 2 code.toNat) = _
  rw [Value.ofUnsigned?, if_pos width, LittleEndian.value_octets_of_lt fits, same]

/-- An event whose properties tell a question. -/
structure Event.Tells (event : Event) (properties : List Property) (question : Question) :
    Prop where
  schema : event.schema = .ok properties
  distinct : (properties.map Property.name).Nodup
  name : ∃ after, nameProperty question.name after ∈ properties
  type : typeProperty question.typeCode ∈ properties
  clock : ∃ time, Instant.ofFileTime? event.clock event.fileTime = some time

variable {event : Event} {properties : List Property} {question : Question}

theorem Event.Tells.ofReport? (tells : event.Tells properties question)
    (filled : question.name ≠ []) (inside : Text.nul ∉ question.name)
    (trimmed : Text.Trimmed question.name) {report : Report}
    (fields : report.fields = Property.fields properties) :
    ∃ query, Query.ofReport? report = some query ∧ query.name = question.name ∧
      query.type = .ofCode question.typeCode.toUInt64 := by
  obtain ⟨after, named⟩ := tells.name
  have name : report.fields.get? Report.queryName = some (.text question.name) := by
    rw [fields, Property.get?_fields_eq_some_iff tells.distinct]
    exact ⟨by decide, _, named, rfl, value?_nameProperty inside after⟩
  have type : report.fields.get? Report.queryType = some (.number question.typeCode.toUInt64) := by
    rw [fields, Property.get?_fields_eq_some_iff tells.distinct]
    exact ⟨by decide, _, tells.type, rfl, value?_typeProperty _⟩
  rw [Query.ofReport?, name, type, Option.bind_some, Query.text?_of_clean filled inside trimmed]
  exact ⟨_, rfl, rfl, rfl⟩

/-- The packet and the event of one question become queries of the same name and the same type,
and every admission denies both names or neither. -/
theorem event_agrees_with_packet {packet : Packet} (now : Instant)
    (read : Question.read? packet.payload = some question) (inside : Text.nul ∉ question.name)
    (trimmed : Text.Trimmed question.name) (tells : event.Tells properties question) :
    ∃ ofPacket report ofReport,
      Query.ofPacket? now packet = some ofPacket ∧
      event.report properties = .ok report ∧
      (∀ delivery : Delivery, delivery.refused = false →
        delivery.meet (.event event) = .ok (delivery.send report)) ∧
      Query.ofReport? report = some ofReport ∧
      ofReport.name = ofPacket.name ∧ ofReport.type = ofPacket.type ∧
      ∀ admission : Admission, admission.denies ofReport.name = admission.denies ofPacket.name := by
  obtain ⟨time, clock⟩ := tells.clock
  obtain ⟨labels, asks⟩ := Question.exists_asks_of_read? read
  have built : ∃ report, event.report properties = .ok report ∧
      report.fields = Property.fields properties := by
    rw [Event.report, clock]
    exact ⟨_, rfl, rfl⟩
  obtain ⟨report, made, fields⟩ := built
  obtain ⟨ofReport, decoded, name, type⟩ := tells.ofReport? asks.name_ne_nil inside trimmed fields
  refine ⟨_, report, ofReport, congrArg (Option.map _) read, made, ?_, decoded, name, type, ?_⟩
  · intro delivery receiving
    rw [Delivery.meet, receiving, tells.schema]
    simp only [made, Bool.false_eq_true, if_false]
  · intro admission
    exact congrArg admission.denies name

/-- The event of a question, between a property without bytes and one that is not kept. -/
def askingEvent (name : Text) (code : UInt16) (after : Octets) : Event where
  eventId := 3008
  processId := 812
  threadId := 900
  fileTime := 133538402050000000
  clock := ⟨0, 0⟩
  schema := .ok [⟨Report.status, .uint32, false, none⟩, typeProperty code,
    ⟨"Interface".toList, .unlisted, true, some [1]⟩, nameProperty name after]

/-- A letter beyond sixteen bits and the stand-in of a damaged byte. -/
theorem event_agrees_with_packet_beyond_sixteen_bits :
    let packet := Handler.askingPacket [[0xF0, 0x9F, 0x98, 0x80], [0xFF]]
    let event := askingEvent "😀.\uFFFD".toList 1 [0x41]
    Question.read? packet.payload = some ⟨"😀.\uFFFD".toList, 1⟩ ∧
      Text.nul ∉ "😀.\uFFFD".toList ∧ Text.Trimmed "😀.\uFFFD".toList ∧
      (∃ properties, event.Tells properties ⟨"😀.\uFFFD".toList, 1⟩) ∧
      ∃ ofPacket report ofReport,
        Query.ofPacket? ⟨0, 0⟩ packet = some ofPacket ∧
        ({} : Delivery).meet (.event event) = .ok (({} : Delivery).send report) ∧
        Query.ofReport? report = some ofReport ∧
        ofReport.name = ofPacket.name ∧ ofReport.type = ofPacket.type ∧
        ∀ admission : Admission,
          admission.denies ofReport.name = admission.denies ofPacket.name := by
  intro packet event
  have read : Question.read? packet.payload = some ⟨"😀.\uFFFD".toList, 1⟩ := by decide +kernel
  have inside : Text.nul ∉ "😀.\uFFFD".toList := by decide
  have trimmed : Text.Trimmed "😀.\uFFFD".toList := by
    constructor <;> (rintro c ⟨⟩; decide)
  have tells : event.Tells _ ⟨"😀.\uFFFD".toList, 1⟩ :=
    { schema := rfl
      distinct := by decide
      name := ⟨[0x41], by simp⟩
      type := by simp
      clock := ⟨⟨1709366605, 0⟩, by decide +kernel⟩ }
  obtain ⟨ofPacket, report, ofReport, seen, -, sent, decoded, name, type, alike⟩ :=
    event_agrees_with_packet ⟨0, 0⟩ read inside trimmed tells
  exact ⟨read, inside, trimmed, ⟨_, tells⟩, ofPacket, report, ofReport, seen, sent _ rfl, decoded,
    name, type, alike⟩

end Trace
end QueryWatch
