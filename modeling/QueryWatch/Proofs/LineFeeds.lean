import Mathlib.Algebra.GroupWithZero.Nat
import QueryWatch.Proofs.Handling
import QueryWatch.Proofs.QuestionGrammar
import QueryWatch.Proofs.Utf8Width

/-!
# Line feeds of a compact line

Nothing between a capture and the writer takes a line feed out or adds one. The
encoder and the decoder of UTF-8 keep the number of line feeds, as they do with
every ASCII character. Numerals, civil times, transports and the filling
of columns hold none.

So a compact line has the line feed at its end and those of the texts that come
from outside: the name and the type of the query, the name and the path of the
process. It is one line exactly if these four texts are.
-/
namespace QueryWatch

/-- The byte that ends a line. -/
def lineFeedByte : UInt8 := 10

namespace Utf8
open Text

theorem eq_lineFeed_iff (c : Char) : c = lineFeed ↔ c.toNat = 10 :=
  Char.toNat_inj.symm

theorem count_utf8EncodeChar (c : Char) :
    (String.utf8EncodeChar c).count lineFeedByte = if c = lineFeed then 1 else 0 := by
  by_cases small : c.toNat ≤ 0x7f
  · have same : UInt8.ofNat c.toNat = lineFeedByte ↔ c = lineFeed := by
      rw [eq_lineFeed_iff, ← UInt8.toNat_inj, UInt8.toNat_ofNat']
      simp only [lineFeedByte, UInt8.reduceToNat]
      omega
    rw [utf8EncodeChar_of_small small, List.count_singleton]
    simp only [beq_iff_eq, same]
  · have absent : lineFeedByte ∉ String.utf8EncodeChar c := fun member =>
      absurd (high_of_mem_utf8EncodeChar (Nat.not_le.1 small) member) (by decide)
    have other : c ≠ lineFeed := by
      rw [Ne, eq_lineFeed_iff]
      omega
    rw [List.count_eq_zero.2 absent, if_neg other]

theorem count_encode (t : Text) : (encode t).count lineFeedByte = t.count lineFeed := by
  induction t with
  | nil => rfl
  | cons c t ih =>
    rw [encode, List.flatMap_cons, List.count_append, count_utf8EncodeChar, List.count_cons,
      ← encode, ih, Nat.add_comm]
    simp only [beq_iff_eq]

theorem ofNat_eq_lineFeed_iff (n : Nat) : Char.ofNat n = lineFeed ↔ n = 10 := by
  rw [eq_lineFeed_iff, Char.ofNat]
  by_cases valid : n.isValidChar
  · rw [dif_pos valid]
    exact Iff.rfl
  · rw [dif_neg valid]
    constructor
    · intro zero
      exact absurd zero (by decide)
    · rintro rfl
      exact absurd (by decide) valid

theorem count_start (b : UInt8) :
    (start b).1.count lineFeed = if b = lineFeedByte then 1 else 0 := by
  have same : b = lineFeedByte ↔ b.toNat = 10 := UInt8.toNat_inj.symm
  by_cases ascii : b < 0x80
  · rw [start, if_pos ascii, List.count_singleton]
    simp only [beq_iff_eq, ofNat_eq_lineFeed_iff, same]
  · have high : ¬b.toNat < 0x80 := ascii
    have other : b ≠ lineFeedByte := by
      rw [Ne, same]
      omega
    rw [start, if_neg ascii, if_neg other]
    split_ifs <;> rfl

theorem count_step {state : State} (wide : state.Wide) (b : UInt8) :
    (step state b).1.count lineFeed = if b = lineFeedByte then 1 else 0 := by
  cases state with
  | between => exact count_start b
  | inside bits low high further =>
    simp only [step, Bool.and_eq_true, decide_eq_true_eq]
    by_cases fits : low ≤ b ∧ b ≤ high
    · have other : b ≠ lineFeedByte := by
        rintro rfl
        exact absurd (wide.1.trans (UInt8.le_iff_toNat_le.1 fits.1)) (by decide)
      have extended := extended_wide wide fits.1
      rw [if_pos fits, if_neg other, List.count_eq_zero]
      cases further with
      | zero =>
        simp only [if_true] at extended
        rw [List.mem_singleton, eq_comm, ofNat_eq_lineFeed_iff]
        omega
      | succ n => exact List.not_mem_nil
    · rw [if_neg fits, ← count_start b]
      exact List.count_cons_of_ne (by decide)

theorem count_decodeFrom {state : State} (wide : state.Wide) (bytes : Octets) :
    (decodeFrom state bytes).count lineFeed = bytes.count lineFeedByte := by
  induction bytes generalizing state with
  | nil => cases state <;> rfl
  | cons b rest ih =>
    rw [decodeFrom, List.count_append, count_step wide, ih (step_wide wide b), List.count_cons,
      Nat.add_comm]
    simp only [beq_iff_eq]

theorem count_decodeLossy (bytes : Octets) :
    (decodeLossy bytes).count lineFeed = bytes.count lineFeedByte := by
  have wide : State.between.Wide := trivial
  exact count_decodeFrom wide bytes

end Utf8
theorem Text.count_unlines (lines : List Text) :
    (unlines lines).count lineFeed = (lines.map (·.count lineFeed)).sum + lines.length := by
  induction lines with
  | nil => rfl
  | cons line lines ih =>
    rw [unlines, List.flatMap_cons, ← unlines, List.count_append, List.count_append, ih,
      List.count_singleton_self, List.map_cons, List.sum_cons, List.length_cons]
    omega

theorem Text.count_join_dots (pieces : List Text) :
    (join ['.'] pieces).count lineFeed = (pieces.map (·.count lineFeed)).sum := by
  fun_induction join ['.'] pieces
  case case1 => rfl
  case case2 piece => simp
  case case3 piece rest more ih =>
    have dot : List.count lineFeed ['.'] = 0 := by decide
    rw [List.count_append, List.count_append, dot, ih, List.map_cons, List.sum_cons]
    rfl

theorem Text.count_column (width : Nat) (t : Text) :
    (column width t).count lineFeed = t.count lineFeed := by
  have blanks : lineFeed ∉ List.replicate (width - t.length) ' ' := fun member =>
    absurd (List.eq_of_mem_replicate member) (by decide)
  rw [column, List.count_append, List.count_eq_zero.2 blanks, Nat.add_zero]

namespace Numeral
open Text

theorem lineFeed_not_mem_decimal (n : Nat) : lineFeed ∉ decimal n := by
  intro member
  have digit := Nat.isDigit_of_mem_toDigits (by decide) le_rfl member
  exact absurd digit (by decide)

theorem lineFeed_not_mem_zeroPadded (width n : Nat) : lineFeed ∉ zeroPadded width n := by
  intro member
  rcases List.mem_append.1 member with zero | digit
  · exact absurd (List.eq_of_mem_replicate zero) (by decide)
  · exact lineFeed_not_mem_decimal n digit

end Numeral

theorem Civil.lineFeed_not_mem_toText (c : Civil) : Text.lineFeed ∉ c.toText := by
  have dash : Text.lineFeed ≠ '-' := by decide
  have plus : Text.lineFeed ≠ '+' := by decide
  have blank : Text.lineFeed ≠ ' ' := by decide
  have colon : Text.lineFeed ≠ ':' := by decide
  have year : Text.lineFeed ∉ yearText c.date.year := by
    unfold yearText
    split_ifs <;> simp [Numeral.lineFeed_not_mem_zeroPadded, dash, plus]
  simp [toText, year, Numeral.lineFeed_not_mem_zeroPadded, dash, blank, colon]

theorem QueryType.lineFeed_not_mem_ofCode (code : UInt64) :
    Text.lineFeed ∉ (Reading.ofCode code : Reading QueryType).shown := by
  unfold Reading.ofCode
  split
  next entry _ => cases entry <;> decide
  next =>
    have word : Text.lineFeed ∉ CodeTable.unlistedWord QueryType := by decide
    have opening : Text.lineFeed ∉ "(".toList := by decide
    have closing : Text.lineFeed ∉ ")".toList := by decide
    simp only [Reading.shown, Reading.parenthesised, List.mem_append, word, opening, closing,
      Numeral.lineFeed_not_mem_decimal, or_self, not_false_iff]

namespace Display
open Text

theorem count_row (widths : List Nat) (cells : List Text) :
    (row widths cells).count lineFeed = (cells.map (·.count lineFeed)).sum := by
  fun_induction row widths cells
  case case1 width widths cell next rest ih =>
    have gap : List.count lineFeed columnGap = 0 := by decide
    rw [List.count_append, List.count_append, Text.count_column, gap, ih, List.map_cons,
      List.sum_cons]
    rfl
  case case2 => exact List.count_flatten

end Display

/-- The texts of a compact line that come from outside. -/
def Sighting.foreignTexts (s : Sighting) : List Text :=
  [s.query.name, s.query.type.shown, s.sender.name, s.sender.path]

theorem Display.count_compactLine (zone : Zone) (s : Sighting) :
    (compactLine zone s).count Text.lineFeed =
      (s.foreignTexts.map (·.count Text.lineFeed)).sum + 1 := by
  have time := List.count_eq_zero.2 (zone.civil s.query.time).lineFeed_not_mem_toText
  have process := List.count_eq_zero.2
    (Numeral.lineFeed_not_mem_decimal s.query.processId.toNat)
  have transport : (orDash (s.query.transport.map Transport.shown)).count Text.lineFeed = 0 := by
    rcases s.query.transport with _ | _ | _ | _ <;> rfl
  rw [compactLine, Text.count_unlines]
  simp only [List.map_cons, List.map_nil, List.sum_cons, List.sum_nil, List.length_singleton,
    count_row, cells, time, process, transport, Sighting.foreignTexts]
  omega

theorem Display.getLast?_compactLine (zone : Zone) (s : Sighting) :
    (Utf8.encode (compactLine zone s)).getLast? = some lineFeedByte := by
  have ended : compactLine zone s = row columnWidths (cells zone s) ++ [Text.lineFeed] := by
    simp [compactLine, Text.unlines]
  rw [ended, Utf8.encode, List.flatMap_append]
  exact List.getLast?_concat

theorem sum_counts_eq_zero_iff {α : Type} [DecidableEq α] (a : α) (pieces : List (List α)) :
    (pieces.map (·.count a)).sum = 0 ↔ ∀ piece ∈ pieces, a ∉ piece := by
  rw [← List.count_flatten, List.count_eq_zero, List.mem_flatten]
  simp only [not_exists, not_and]

/-- A name has the line feeds of its labels. -/
theorem Question.Asks.count_name {message : Octets} {labels : List Octets} {question : Question}
    (asks : Asks message labels question) :
    question.name.count Text.lineFeed = (labels.map (·.count lineFeedByte)).sum := by
  rw [asks.name, Text.count_join_dots, List.map_map]
  congr 1
  exact List.map_congr_left fun label _ => Utf8.count_decodeLossy label

namespace Handler

/-- The part of a judgement that a packet decides. -/
theorem Judges.asks {handler : Handler} {arrival : Arrival} {packet : Packet} {s : Sighting}
    (judges : handler.Judges arrival (.emitted s)) (packets : arrival.capture = .packet packet) :
    s.sender = (handler.resolver packet.processId).sender ∧
      ∃ labels question, Question.Asks packet.payload labels question ∧
        s.query.name = question.name ∧
        s.query.type = .ofCode question.typeCode.toUInt64 := by
  cases judges with
  | @published query outcome read admitted sighting =>
    obtain rfl := Option.some.inj sighting
    rw [packets, Query.ofCapture?, Query.ofPacket?, Option.map_eq_some_iff] at read
    obtain ⟨question, asked, rfl⟩ := read
    obtain ⟨labels, asks⟩ := Question.exists_asks_of_read? asked
    exact ⟨rfl, labels, question, asks, rfl, rfl⟩

/-- What a compact sighting leaves with the writer ends with a line feed, and has
no other exactly if the texts from outside have none. For a packet this is
decided by the bytes of its labels and by the process. -/
theorem compact_line_is_single_iff {handler : Handler} {progress : Progress}
    {arrival : Arrival} {s : Sighting} (compact : handler.display.style = .compact)
    (emitted : (handler.handle progress arrival).2 = .emitted s) :
    ∃ line,
      (handler.handle progress arrival).1.writer.accepted = progress.writer.accepted ++ line ∧
      line.getLast? = some lineFeedByte ∧
      (line.count lineFeedByte = 1 ↔ ∀ t ∈ s.foreignTexts, Text.lineFeed ∉ t) ∧
      ∀ packet, arrival.capture = .packet packet →
        s.sender = (handler.resolver packet.processId).sender ∧
        ∃ labels question, Question.Asks packet.payload labels question ∧
          (line.count lineFeedByte = 1 ↔
            (∀ label ∈ labels, lineFeedByte ∉ label) ∧
              Text.lineFeed ∉ s.sender.name ∧ Text.lineFeed ∉ s.sender.path) := by
  obtain ⟨line, leaves, accepted⟩ := (handler.handle_effect progress arrival).accepted
  have judges := handler.handle_judges progress arrival
  rw [emitted] at leaves judges
  cases leaves
  have rendered : handler.display.render s = Display.compactLine handler.display.zone s := by
    rw [Display.render, compact]
  rw [rendered] at accepted
  have single : (Utf8.encode (Display.compactLine handler.display.zone s)).count lineFeedByte = 1 ↔
      ∀ t ∈ s.foreignTexts, Text.lineFeed ∉ t := by
    rw [Utf8.count_encode, Display.count_compactLine, ← sum_counts_eq_zero_iff]
    exact Nat.add_eq_right
  refine ⟨_, accepted, Display.getLast?_compactLine _ s, single, ?_⟩
  intro packet packets
  obtain ⟨sender, labels, question, asks, name, type⟩ := judges.asks packets
  refine ⟨sender, labels, question, asks, single.trans ?_⟩
  have named : Text.lineFeed ∉ s.query.name ↔ ∀ label ∈ labels, lineFeedByte ∉ label := by
    rw [name, ← List.count_eq_zero, asks.count_name, sum_counts_eq_zero_iff]
  have typed : Text.lineFeed ∉ s.query.type.shown := by
    rw [type]
    exact QueryType.lineFeed_not_mem_ofCode _
  simp [Sighting.foreignTexts, named, typed]

/-- A packet of process 812 that asks for the address of a name. -/
def askingPacket (labels : List Octets) : Packet where
  bootNanos := 0
  processId := 812
  threadId := 812
  userId := 1000
  groupId := 1000
  interfaceIndex := 2
  command := "curl".toList
  sourcePort := 40000
  destinationPort := 53
  source := ⟨10, 0, 0, 2⟩
  destination := ⟨10, 0, 0, 1⟩
  protocol := 17
  payload := List.replicate Question.headerLength 0 ++ Question.write labels 1

/-- The sighting of such a packet when no process is known. -/
def askingSighting (name : Text) : Sighting where
  query :=
    { time := ⟨0, 0⟩
      processId := 812
      threadId := some 812
      name := name
      type := .listed .a
      status := none
      transport := some .udp
      result := none
      eventId := none }
  sender := .placeholder 812

theorem compact_line_is_single_of_plain_labels :
    let (after, outcome) := unrestricted.handle { writer := ⟨.unlimited, [], []⟩ }
      ⟨.packet (askingPacket [[97], [98]]), ⟨0, 0⟩⟩
    outcome = .emitted (askingSighting "a.b".toList) ∧
      ∃ line, after.writer.accepted = line ∧ line.getLast? = some lineFeedByte ∧
        line.count lineFeedByte = 1 := by
  have emitted : (unrestricted.handle { writer := ⟨.unlimited, [], []⟩ }
      ⟨.packet (askingPacket [[97], [98]]), ⟨0, 0⟩⟩).2
        = .emitted (askingSighting "a.b".toList) := by
    decide +kernel
  obtain ⟨line, accepted, ended, single, -⟩ := compact_line_is_single_iff rfl emitted
  exact ⟨emitted, line, accepted, ended, single.2 (by decide)⟩

/-- A line feed inside of a label starts a second line. -/
theorem compact_line_is_broken_by_a_label :
    ¬∀ (handler : Handler) (progress : Progress) (arrival : Arrival) (s : Sighting),
      handler.display.style = .compact → progress.writer.capacity = .unlimited →
        (handler.handle progress arrival).2 = .emitted s →
          ∃ line,
            (handler.handle progress arrival).1.writer.accepted
              = progress.writer.accepted ++ line ∧
            line.count lineFeedByte = 1 ∧ line.getLast? = some lineFeedByte := by
  intro claim
  have emitted : (unrestricted.handle { writer := ⟨.unlimited, [], []⟩ }
      ⟨.packet (askingPacket [[97, 10, 98]]), ⟨0, 0⟩⟩).2
        = .emitted (askingSighting "a\nb".toList) := by
    decide +kernel
  obtain ⟨line, accepted, single, -⟩ := claim _ _ _ _ rfl rfl emitted
  have two : (unrestricted.handle { writer := ⟨.unlimited, [], []⟩ }
      ⟨.packet (askingPacket [[97, 10, 98]]), ⟨0, 0⟩⟩).1.writer.accepted.count lineFeedByte
        = 2 := by
    decide +kernel
  rw [accepted, Writer.accepted, List.flatten_nil, List.nil_append, List.nil_append,
    single] at two
  exact absurd two (by decide)

end Handler
end QueryWatch
