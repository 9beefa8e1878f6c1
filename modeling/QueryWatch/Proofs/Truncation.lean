import QueryWatch.Proofs.QuestionGrammar
import QueryWatch.Proofs.Samples
import QueryWatch.Query.OfCapture

/-!
# Messages that are cut off

A question ends with its type, and nothing after that is looked at. So a beginning of a
message asks what the whole message asks if it reaches the end of the question, and asks
nothing if it does not: a beginning that asks anything asks it also with the rest of the
message behind it, through the same labels, and these say where the question ends.

The probes keep the first bytes of a message, as many as the message area of a record
holds. What is read from such a record is therefore the question of the message, or nothing.
-/
namespace QueryWatch.Question

/-- Where the question with these labels ends in a message, its type included. -/
def extent (labels : List Octets) : Nat :=
  12 + (labels.flatMap writeLabel).length + 3

section
variable {message : Octets} {labels : List Octets} {question : Question}

theorem getD_two_append (h : 12 ≤ message.length) (rest : Octets) :
    (message ++ rest).getD 2 0 = message.getD 2 0 := by
  have inside : 2 < message.length := Nat.lt_of_lt_of_le (by decide) h
  rw [List.getD_eq_getElem?_getD, List.getElem?_append_left inside, List.getD_eq_getElem?_getD]

/-- A question is asked whatever follows the message. -/
theorem Asks.append (asks : Asks message labels question) (rest : Octets) :
    Asks (message ++ rest) labels question where
  header := asks.header.trans (by simp)
  query := by
    rw [getD_two_append asks.header]
    exact asks.query
  labelled := asks.labelled
  valid := asks.valid
  body := by
    obtain ⟨high, low, after, body, code⟩ := asks.body
    refine ⟨high, low, after ++ rest, ?_, code⟩
    rw [List.drop_append_of_le_length asks.header, body, List.append_assoc]
    rfl
  name := asks.name

theorem Asks.extent_le (asks : Asks message labels question) :
    extent labels ≤ message.length := by
  obtain ⟨high, low, rest, body, -⟩ := asks.body
  have header := asks.header
  have length := congrArg List.length body
  simp only [List.length_drop, List.length_append, List.length_cons] at length
  unfold extent
  omega

/-- A beginning that reaches the end of the question asks it. -/
theorem Asks.take (asks : Asks message labels question) {n : Nat} (reach : extent labels ≤ n) :
    Asks (message.take n) labels question := by
  obtain ⟨high, low, rest, body, code⟩ := asks.body
  have within : 12 ≤ n := by
    unfold extent at reach
    omega
  have header : 12 ≤ (message.take n).length := by
    rw [List.length_take]
    exact le_min within asks.header
  refine ⟨header, ?_, asks.labelled, asks.valid, ?_, asks.name⟩
  · rw [← getD_two_append header (message.drop n), List.take_append_drop]
    exact asks.query
  · obtain ⟨more, enough⟩ := Nat.exists_eq_add_of_le reach
    have left : n - 12 = (labels.flatMap writeLabel).length + (more + 3) := by
      unfold extent at enough
      omega
    refine ⟨high, low, rest.take more, ?_, code⟩
    rw [List.drop_take, body, left, List.take_length_add_append]
    rfl

theorem Asks.of_take {n : Nat} (asks : Asks (message.take n) labels question) :
    Asks message labels question := by
  have whole := asks.append (message.drop n)
  rwa [List.take_append_drop] at whole

/-- Exactly the beginnings that reach the end of a question ask it. -/
theorem Asks.read?_take_iff (asks : Asks message labels question) (n : Nat) :
    Question.read? (message.take n) = some question ↔ extent labels ≤ n := by
  constructor
  · intro read
    obtain ⟨others, cut⟩ := exists_asks_of_read? read
    rw [asks.labels_unique cut.of_take]
    exact cut.extent_le.trans (List.length_take_le n message)
  · intro reach
    exact (asks.take reach).read?

end

/-- A beginning of a message asks nothing, or what the message asks. -/
theorem read?_take_eq_none_or (message : Octets) (n : Nat) :
    read? (message.take n) = none ∨ read? (message.take n) = read? message := by
  cases read : read? (message.take n) with
  | none => exact .inl rfl
  | some question =>
    obtain ⟨labels, asks⟩ := exists_asks_of_read? read
    exact .inr asks.of_take.read?.symm

end QueryWatch.Question

namespace QueryWatch.Packet
open Question

/-- A sample that records as much of the beginning of a message as its area holds. -/
structure Records (sample message : Octets) : Prop where
  long : layout.total ≤ sample.length
  recorded : word layout.payloadLength 2 sample = min message.length messageLength
  area : message.take messageLength <+: slice layout.payload messageLength sample

theorem Records.payload {sample message : Octets} (records : Records sample message) :
    payloadOfSample sample = message.take messageLength := by
  have within : min message.length messageLength ≤ messageLength := Nat.min_le_right _ _
  have kept : (message.take messageLength).length = min message.length messageLength := by
    rw [List.length_take, Nat.min_comm]
  rw [payloadOfSample, records.recorded, Nat.min_eq_left within, ← take_slice within, ← kept]
  exact (List.prefix_iff_eq_take.1 records.area).symm

theorem Records.exists_packet {sample message : Octets} (records : Records sample message) :
    ∃ packet, ofSample? sample = some packet ∧ packet.payload = message.take messageLength := by
  cases read : ofSample? sample with
  | none => exact absurd ((ofSample?_eq_none_iff sample).1 read) (Nat.not_lt.2 records.long)
  | some packet =>
    exact ⟨packet, rfl, (payload_of_ofSample? read).trans records.payload⟩

theorem ofPacket?_eq_none {packet : Packet} (now : Instant)
    (silent : read? packet.payload = none) : Query.ofPacket? now packet = none := by
  rw [Query.ofPacket?, silent, Option.map_none]

theorem exists_ofPacket? {packet : Packet} {question : Question} (now : Instant)
    (read : read? packet.payload = some question) :
    ∃ query, Query.ofPacket? now packet = some query ∧ query.name = question.name ∧
      query.type = .ofCode question.typeCode.toUInt64 := by
  rw [Query.ofPacket?, read, Option.map_some]
  exact ⟨_, rfl, rfl, rfl⟩

/-- Cutting a message off never changes its question. A beginning asks nothing or what
the message asks, and what a message asks is asked by exactly the beginnings that reach
the end of the question. So a sample that records as much of a message as it holds gives
the name and the type of the message if the question ends within the area, and no query
if it ends beyond it or the message asks nothing. -/
theorem truncation_never_changes_question (message : Octets) :
    (∀ n, read? (message.take n) = none ∨ read? (message.take n) = read? message) ∧
      (∀ question, read? message = some question →
        ∃ labels, Asks message labels question ∧
          ∀ n, read? (message.take n) = some question ↔ extent labels ≤ n) ∧
      ∀ sample now, Records sample message →
        ∃ packet, ofSample? sample = some packet ∧
          (read? message = none → Query.ofPacket? now packet = none) ∧
          ∀ question, read? message = some question →
            ∃ labels, Asks message labels question ∧
              (extent labels ≤ messageLength →
                ∃ query, Query.ofPacket? now packet = some query ∧
                  query.name = question.name ∧
                  query.type = .ofCode question.typeCode.toUInt64) ∧
              (messageLength < extent labels → Query.ofPacket? now packet = none) := by
  have agree := read?_take_eq_none_or message
  refine ⟨agree, ?_, ?_⟩
  · intro question read
    obtain ⟨labels, asks⟩ := exists_asks_of_read? read
    exact ⟨labels, asks, asks.read?_take_iff⟩
  · intro sample now records
    obtain ⟨packet, sampled, payload⟩ := records.exists_packet
    refine ⟨packet, sampled, fun silent => ?_, fun question read => ?_⟩
    · apply ofPacket?_eq_none
      rw [payload]
      exact (agree messageLength).elim id fun same => same.trans silent
    · obtain ⟨labels, asks⟩ := exists_asks_of_read? read
      refine ⟨labels, asks, fun reach => ?_, fun beyond => ?_⟩
      · apply exists_ofPacket?
        rw [payload]
        exact (asks.read?_take_iff messageLength).2 reach
      · apply ofPacket?_eq_none
        rw [payload]
        refine (agree messageLength).resolve_right fun same => ?_
        exact Nat.not_le.2 beyond ((asks.read?_take_iff messageLength).1 (same.trans read))

/-- A message that is longer than the message area and asks within it. -/
def longMessage : Octets :=
  List.replicate headerLength 0 ++ write [[97], [195, 169]] 28 ++ List.replicate 562 7

theorem long_message_is_read_from_its_beginning :
    ∃ packet query,
      Records (toSample { samplePacket with payload := longMessage.take messageLength } [])
        longMessage ∧
      ofSample? (toSample { samplePacket with payload := longMessage.take messageLength } [])
        = some packet ∧
      Query.ofPacket? ⟨0, 0⟩ packet = some query ∧ query.name = "a.é".toList ∧
      query.type = .listed .aaaa := by
  have read : read? longMessage = some ⟨"a.é".toList, 28⟩ := by decide +kernel
  have records : Records
      (toSample { samplePacket with payload := longMessage.take messageLength } [])
      longMessage :=
    ⟨by decide +kernel, by decide +kernel, by decide +kernel⟩
  obtain ⟨packet, sampled, -, decoded⟩ :=
    (truncation_never_changes_question longMessage).2.2 _ ⟨0, 0⟩ records
  obtain ⟨labels, asks, within, -⟩ := decoded _ read
  have reach : extent labels ≤ messageLength := by
    have early : read? (longMessage.take messageLength) = some ⟨"a.é".toList, 28⟩ := by
      decide +kernel
    exact (asks.read?_take_iff messageLength).1 early
  obtain ⟨query, found, name, type⟩ := within reach
  exact ⟨packet, query, records, sampled, found, name, type.trans (by decide)⟩

end QueryWatch.Packet
