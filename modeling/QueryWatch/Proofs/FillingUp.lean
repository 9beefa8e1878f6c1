import QueryWatch.Proofs.LineFeeds
import QueryWatch.Watch

/-!
# A writer that fills up

A writer with room for so many bytes goes through a run beside a writer that accepts all of
them. It has always accepted the first bytes of what the other one has, and has room for the
rest of its share. This holds wherever the share ends: within the header or between two of
its pieces, at the border of two records or within one of them. A write that does not fit
uses the room up, so that nothing can follow it, and the run goes on.

The two runs judge every capture alike. A record counts as written exactly if it ends within
the share, and as an error otherwise.
-/
namespace QueryWatch

namespace Writer

/-- A writer with room for n bytes in all, beside one that accepts everything. -/
structure Follows (n : Nat) (whole limited : Writer) : Prop where
  free : whole.capacity = .unlimited
  room : limited.capacity = .room (n - whole.accepted.length)
  accepted : limited.accepted = whole.accepted.take n

variable {n : Nat} {whole limited : Writer}

theorem write_of_unlimited (free : whole.capacity = .unlimited) (bytes : Octets) :
    whole.write bytes = (whole.accept bytes, none) := by
  rw [write, free]

theorem flush_of_unlimited (free : whole.capacity = .unlimited) : whole.flush.2 = none := by
  rw [flush, free]

theorem flush_of_room {left : Nat} (room : limited.capacity = .room left) :
    limited.flush.2 = none := by
  rw [flush, room]

theorem capacity_flush (writer : Writer) : writer.flush.1.capacity = writer.capacity := by
  unfold flush
  split <;> rfl

theorem Follows.flush_whole (follows : Follows n whole limited) :
    Follows n whole.flush.1 limited where
  free := by rw [capacity_flush, follows.free]
  room := by rw [accepted_flush, follows.room]
  accepted := by rw [accepted_flush, follows.accepted]

theorem Follows.flush_limited (follows : Follows n whole limited) :
    Follows n whole limited.flush.1 where
  free := follows.free
  room := by rw [capacity_flush, follows.room]
  accepted := by rw [accepted_flush, follows.accepted]

/-- A write fills the share as far as it goes. -/
theorem Follows.write (follows : Follows n whole limited) (bytes : Octets) :
    Follows n (whole.accept bytes) (limited.write bytes).1 ∧
      ((limited.write bytes).2 = none ↔ bytes.length ≤ n - whole.accepted.length) := by
  simp only [Writer.write, follows.room]
  refine ⟨⟨follows.free, ?_, ?_⟩, by simp⟩
  · simp only [accepted_accept, List.length_append, Nat.sub_add_eq]
  · have same : ({ limited.accept (bytes.take (n - whole.accepted.length)) with
        capacity := .room (n - whole.accepted.length - bytes.length) } : Writer).accepted
          = limited.accepted ++ bytes.take (n - whole.accepted.length) :=
      accepted_accept limited _
    rw [same, accepted_accept, follows.accepted, List.take_append]

/-- Once the share is used up the other writer may go on alone. -/
theorem Follows.of_full (follows : Follows n whole limited) (full : n ≤ whole.accepted.length)
    (bytes : Octets) : Follows n (whole.accept bytes) limited where
  free := follows.free
  room := by
    rw [follows.room, accepted_accept, List.length_append, Nat.sub_eq_zero_of_le full,
      Nat.sub_eq_zero_of_le (Nat.le_add_right_of_le full)]
  accepted := by
    rw [follows.accepted, accepted_accept, List.take_append_of_le_length full]

theorem accept_nil (writer : Writer) : writer.accept [] = writer := by
  simp [accept]

theorem accept_accept (writer : Writer) (bytes more : Octets) :
    (writer.accept bytes).accept more = writer.accept (bytes ++ more) := by
  simp only [accept, List.append_assoc]

theorem writePieces_of_unlimited (free : whole.capacity = .unlimited) (pieces : List Octets) :
    whole.writePieces pieces = ((whole.accept pieces.flatten).flush.1, none) := by
  induction pieces generalizing whole with
  | nil =>
    rw [writePieces, List.flatten_nil, accept_nil, ← flush_of_unlimited free]
  | cons piece rest ih =>
    have still_free : (whole.accept piece).capacity = .unlimited := free
    rw [writePieces, write_of_unlimited free, List.flatten_cons, ← accept_accept]
    exact ih still_free

/-- Pieces fill the share up in turn, and the first that does not fit is the last. -/
theorem Follows.writePieces (follows : Follows n whole limited) (pieces : List Octets) :
    Follows n (whole.writePieces pieces).1 (limited.writePieces pieces).1 ∧
      ((limited.writePieces pieces).2 = none ↔
        pieces.flatten.length ≤ n - whole.accepted.length) := by
  -- Only the limited writer skips the flush when it fails, and a flush accepts nothing.
  suffices pending : Follows n (whole.accept pieces.flatten) (limited.writePieces pieces).1 ∧
      ((limited.writePieces pieces).2 = none ↔
        pieces.flatten.length ≤ n - whole.accepted.length) by
    rw [writePieces_of_unlimited follows.free]
    exact ⟨pending.1.flush_whole, pending.2⟩
  induction pieces generalizing whole limited with
  | nil =>
    rw [Writer.writePieces, List.flatten_nil, accept_nil]
    exact ⟨follows.flush_limited, by simp [flush_of_room follows.room]⟩
  | cons piece rest ih =>
    obtain ⟨followed, fits⟩ := follows.write piece
    have taken := congrArg List.length (accepted_accept whole piece)
    rw [List.length_append] at taken
    rw [Writer.writePieces, List.flatten_cons, ← accept_accept, List.length_append]
    split
    next written result =>
      rw [result] at followed fits
      have fitting := fits.1 rfl
      obtain ⟨continued, rest_fits⟩ := ih followed
      refine ⟨continued, rest_fits.trans ?_⟩
      omega
    next written fault result =>
      rw [result] at followed fits
      have spills : ¬piece.length ≤ n - whole.accepted.length := fun fitting =>
        absurd (fits.2 fitting) (by simp)
      refine ⟨followed.of_full (by omega) _, by simp, fun all_fit => ?_⟩
      omega

end Writer

namespace Display

/-- The bytes of the header. -/
def header (display : Display) : Octets :=
  match display.style with
  | .compact => (headerPieces.map Utf8.encode).flatten
  | .verbose => []

theorem writeHeader_follows {n : Nat} {whole limited : Writer} (display : Display)
    (follows : whole.Follows n limited) :
    (display.writeHeader whole).1.Follows n (display.writeHeader limited).1 := by
  unfold writeHeader
  cases display.style with
  | compact => exact (follows.writePieces _).1
  | verbose => exact follows

theorem writeHeader_of_unlimited {whole : Writer} (display : Display)
    (free : whole.capacity = .unlimited) :
    (display.writeHeader whole).1.accepted = whole.accepted ++ display.header := by
  unfold writeHeader header
  cases display.style with
  | compact =>
    rw [Writer.writePieces_of_unlimited free, Writer.accepted_flush, Writer.accepted_accept]
  | verbose => exact (List.append_nil _).symm

theorem render_ne_nil (display : Display) (s : Sighting) : display.render s ≠ [] := by
  have lines (first : Text) (rest : List Text) : Text.unlines (first :: rest) ≠ [] := by
    simp [Text.unlines]
  unfold render
  cases display.style with
  | compact => exact lines _ _
  | verbose => exact lines _ _

theorem encode_render_ne_nil (display : Display) (s : Sighting) :
    Utf8.encode (display.render s) ≠ [] := by
  obtain ⟨c, rest, rendered⟩ := List.exists_cons_of_ne_nil (display.render_ne_nil s)
  rw [rendered, Utf8.encode, List.flatMap_cons]
  exact List.append_ne_nil_of_left_ne_nil String.utf8EncodeChar_ne_nil _

end Display

/-- How many of the records that follow a header end within the first n bytes. -/
def recordsWithin (n : Nat) (header : Octets) (records : List Octets) : Nat :=
  (List.range records.length).countP fun k =>
    (header ++ (records.take (k + 1)).flatten).length ≤ n

theorem recordsWithin_concat (n : Nat) (header : Octets) (records : List Octets)
    (last : Octets) :
    recordsWithin n header (records ++ [last]) = recordsWithin n header records
      + if (header ++ records.flatten).length + last.length ≤ n then 1 else 0 := by
  have earlier : ∀ k ∈ List.range records.length,
      (records ++ [last]).take (k + 1) = records.take (k + 1) := fun k within =>
    List.take_append_of_le_length (List.mem_range.1 within)
  have whole : (records ++ [last]).take (records.length + 1) = records ++ [last] :=
    List.take_of_length_le (by simp)
  have ending : (header ++ (records ++ [last]).flatten).length
      = (header ++ records.flatten).length + last.length := by
    simp [Nat.add_assoc]
  rw [recordsWithin, List.length_append, List.length_singleton, List.range_succ,
    List.countP_append, List.countP_singleton, whole, ending, recordsWithin]
  congr 1
  · exact List.countP_congr fun k within => by rw [earlier k within]
  · simp

/-- The counters of a run that fills its writer up, beside those of one that never does. -/
structure Tally.Beside (n : Nat) (header : Octets) (records : List Octets)
    (whole limited : Tally) : Prop where
  received : limited.received = whole.received
  malformed : limited.malformed = whole.malformed
  filtered : limited.filtered = whole.filtered
  emitted : whole.emitted = records.length
  sound : whole.emitErrors = 0
  within : limited.emitted = recordsWithin n header records
  judged : limited.emitted + limited.emitErrors = whole.emitted

namespace Tally.Beside

variable {n : Nat} {header : Octets} {records : List Octets} {whole limited : Tally}
  (beside : Beside n header records whole limited)
include beside

theorem record_unwritten {outcome : Outcome} (unwritten : outcome.sighting? = none) :
    Beside n header records (whole.record outcome) (limited.record outcome) := by
  have received := congrArg (· + 1) beside.received
  obtain rfl | ⟨reason, rfl⟩ := Outcome.sighting?_eq_none_iff.1 unwritten
  · exact { beside with received, malformed := congrArg (· + 1) beside.malformed }
  · exact { beside with received, filtered := congrArg (· + 1) beside.filtered }

/-- A record counts as written exactly if it ends within the share. -/
theorem record_written (s : Sighting) (record : Octets) :
    Beside n header (records ++ [record]) (whole.record (.emitted s))
      (limited.record (if (header ++ records.flatten).length + record.length ≤ n
        then .emitted s else .emitFailed s)) := by
  have received := congrArg (· + 1) beside.received
  have emitted := congrArg (· + 1) beside.emitted
  have within := recordsWithin_concat n header records record
  rw [← beside.within] at within
  have judged := congrArg (· + 1) beside.judged
  have counted : (records ++ [record]).length = records.length + 1 := List.length_append
  split
  next fits =>
    rw [if_pos fits] at within
    exact
      { beside with
        received
        emitted := emitted.trans counted.symm
        within := within.symm
        judged := (Nat.add_right_comm ..).trans judged }
  next spills =>
    rw [if_neg spills] at within
    exact
      { beside with
        received
        emitted := emitted.trans counted.symm
        within := within.symm
        judged := judged }

end Tally.Beside

/-- A run that fills its writer up, beside one that never does. -/
structure Progress.Beside (n : Nat) (header : Octets) (records : List Octets)
    (whole limited : Progress) : Prop where
  writer : whole.writer.Follows n limited.writer
  accepted : whole.writer.accepted = header ++ records.flatten
  tally : whole.tally.Beside n header records limited.tally

namespace Handler

/-- The bytes of all sightings among outcomes, written or not. -/
def renderings (handler : Handler) (outcomes : List Outcome) : List Octets :=
  (outcomes.filterMap Outcome.sighting?).map fun s => Utf8.encode (handler.display.render s)

variable (handler : Handler)

theorem renderings_cons (outcome : Outcome) (outcomes : List Outcome) :
    handler.renderings (outcome :: outcomes)
      = handler.renderings [outcome] ++ handler.renderings outcomes := by
  rw [renderings, ← List.singleton_append, List.filterMap_append, List.map_append]
  rfl

theorem publish_writer (progress : Progress) (query : Query) :
    (handler.publish progress query).1.writer =
      (handler.display.emit progress.writer
        ⟨query, (handler.resolver query.processId).sender⟩).1 := by
  simp only [publish]
  split
  next result => rw [result]; rfl
  next result => rw [result]; rfl

theorem publish_outcome (progress : Progress) (query : Query) :
    (handler.publish progress query).2 =
      if (handler.display.emit progress.writer
          ⟨query, (handler.resolver query.processId).sender⟩).2 = none
      then .emitted ⟨query, (handler.resolver query.processId).sender⟩
      else .emitFailed ⟨query, (handler.resolver query.processId).sender⟩ := by
  simp only [publish]
  split
  next result => rw [result, if_pos rfl]; rfl
  next result => rw [result, if_neg (by simp)]; rfl

theorem start_writer (progress : Progress) :
    (handler.start progress).writer = (handler.display.writeHeader progress.writer).1 := by
  unfold start
  split
  next result => rw [result]
  next result => rw [result]; rfl

theorem start_tally (progress : Progress) :
    (handler.start progress).tally = progress.tally := by
  unfold start
  split <;> rfl

/-- Both runs start with an empty ledger. -/
theorem start_beside (n : Nat) (source : Source) :
    Progress.Beside n handler.display.header []
      (handler.start (Watch.initial source { capacity := .unlimited }))
      (handler.start (Watch.initial source { capacity := .room n })) := by
  have follows : Writer.Follows n { capacity := .unlimited } { capacity := .room n } :=
    ⟨rfl, rfl, List.take_nil.symm⟩
  refine ⟨?_, ?_, ?_⟩
  · rw [start_writer, start_writer]
    exact handler.display.writeHeader_follows follows
  · rw [start_writer, List.flatten_nil, List.append_nil]
    exact handler.display.writeHeader_of_unlimited rfl
  · rw [start_tally, start_tally]
    exact ⟨rfl, rfl, rfl, rfl, rfl, rfl, rfl⟩

variable {n : Nat} {header : Octets} {records : List Octets} {whole limited : Progress}

theorem note_beside (beside : Progress.Beside n header records whole limited)
    (notices more : List Notice) :
    Progress.Beside n header records (whole.note notices) (limited.note more) :=
  ⟨beside.writer, beside.accepted, beside.tally⟩

theorem conclude_beside (beside : Progress.Beside n header records whole limited)
    {outcome : Outcome} (unwritten : outcome.sighting? = none) :
    Progress.Beside n header (records ++ handler.renderings [(whole.conclude outcome).2])
      (whole.conclude outcome).1 (limited.conclude outcome).1 := by
  have nothing : handler.renderings [(whole.conclude outcome).2] = [] := by
    rw [renderings, Progress.conclude, List.filterMap_cons_none unwritten]
    rfl
  rw [nothing, List.append_nil]
  exact ⟨beside.writer, beside.accepted, beside.tally.record_unwritten unwritten⟩

theorem publish_beside (beside : Progress.Beside n header records whole limited)
    (query : Query) :
    Progress.Beside n header
      (records ++ handler.renderings [(handler.publish whole query).2])
      (handler.publish whole query).1 (handler.publish limited query).1 := by
  let s : Sighting := ⟨query, (handler.resolver query.processId).sender⟩
  let record := Utf8.encode (handler.display.render s)
  have written := Writer.writePieces_of_unlimited beside.writer.free [record]
  obtain ⟨follows, fits⟩ := beside.writer.writePieces [record]
  rw [List.flatten_singleton] at written fits
  -- A full writer still takes a text of no bytes, but a record has some.
  have some_bytes : 0 < record.length :=
    List.length_pos_iff.2 (handler.display.encode_render_ne_nil s)
  have within : (limited.writer.writePieces [record]).2 = none ↔
      (header ++ records.flatten).length + record.length ≤ n := by
    rw [fits, beside.accepted]
    omega
  have emitted : (handler.publish whole query).2 = .emitted s := by
    rw [publish_outcome, Display.emit, if_pos (congrArg Prod.snd written)]
  have judged : (handler.publish limited query).2 =
      if (header ++ records.flatten).length + record.length ≤ n
      then .emitted s else .emitFailed s := by
    rw [publish_outcome, Display.emit]
    simp only [within, s, record]
  have recorded : handler.renderings [.emitted s] = [record] := rfl
  rw [emitted, recorded]
  refine ⟨?_, ?_, ?_⟩
  · rw [publish_writer, publish_writer]
    exact follows
  · rw [publish_writer, Display.emit, written, Writer.accepted_flush, Writer.accepted_accept,
      beside.accepted, List.flatten_append, List.flatten_singleton, List.append_assoc]
  · rw [(handler.publish_effect whole query).tally, emitted,
      (handler.publish_effect limited query).tally, judged]
    exact beside.tally.record_written s record

/-- Both runs judge a capture alike, and go on beside each other. -/
theorem handle_beside (beside : Progress.Beside n header records whole limited)
    (arrival : Arrival) :
    Progress.Beside n header
      (records ++ handler.renderings [(handler.handle whole arrival).2])
      (handler.handle whole arrival).1 (handler.handle limited arrival).1 := by
  obtain ⟨_, _, -, unwritten, handled⟩ | ⟨query, -, -, handled⟩ := handler.handle_cases arrival
  · rw [handled, handled]
    exact handler.conclude_beside (note_beside beside _ _) unwritten
  · rw [handled, handled]
    exact handler.publish_beside (note_beside beside _ _) query

theorem handleAll_beside (beside : Progress.Beside n header records whole limited)
    (arrivals : List Arrival) :
    Progress.Beside n header
      (records ++ handler.renderings (handler.outcomes whole arrivals))
      (handler.handleAll whole arrivals) (handler.handleAll limited arrivals) := by
  induction arrivals generalizing records whole limited with
  | nil =>
    rw [outcomes, show handler.renderings [] = [] from rfl, List.append_nil]
    exact beside
  | cons arrival rest ih =>
    rw [outcomes, renderings_cons, ← List.append_assoc]
    exact ih (handler.handle_beside beside arrival)

end Handler

namespace Watch

/-- A watch whose writer has room for n bytes leaves with it the first n of all bytes that
an unlimited one accepts. It counts as emitted the records that end within them, as write
errors the others, and everything else as the unlimited watch does. -/
theorem filled_writer_keeps_prefix (handler : Handler) (source : Source)
    (returns : source.ending = .returned) (stopAfter : Option Nat) (n : Nat) :
    let whole := run handler source stopAfter { capacity := .unlimited }
    let limited := run handler source stopAfter { capacity := .room n }
    let records := handler.renderings (handler.outcomes
      (handler.start (initial source { capacity := .unlimited })) (source.sends stopAfter).1)
    whole.result = .ok whole.progress.tally ∧
      limited.result = .ok limited.progress.tally ∧
      whole.progress.writer.accepted = handler.display.header ++ records.flatten ∧
      limited.progress.writer.accepted = whole.progress.writer.accepted.take n ∧
      whole.progress.tally.emitted = records.length ∧
      whole.progress.tally.emitErrors = 0 ∧
      limited.progress.tally.emitted = recordsWithin n handler.display.header records ∧
      limited.progress.tally.emitted + limited.progress.tally.emitErrors
        = whole.progress.tally.emitted ∧
      limited.progress.tally.received = whole.progress.tally.received ∧
      limited.progress.tally.malformed = whole.progress.tally.malformed ∧
      limited.progress.tally.filtered = whole.progress.tally.filtered := by
  intro whole limited records
  have ended : (source.sends stopAfter).2 = .returned := by
    unfold Source.sends
    split
    · exact returns
    · split
      · rfl
      · exact returns
  have result (writer : Writer) : (run handler source stopAfter writer).result
      = .ok (run handler source stopAfter writer).progress.tally := by
    simp only [run, ended, Ending.result]
  have beside : Progress.Beside n handler.display.header records whole.progress
      limited.progress :=
    Handler.note_beside (handler.handleAll_beside (handler.start_beside n source) _) _ _
  obtain ⟨received, malformed, filtered, emitted, sound, within, judged⟩ := beside.tally
  exact ⟨result _, result _, beside.accepted, beside.writer.accepted, emitted, sound, within,
    judged, received, malformed, filtered⟩

/-- A source that sends two packets and returns. -/
def pairSource : Source where
  name := "replay".toList
  arrivals := [⟨.packet (Handler.askingPacket [[97], [98]]), ⟨0, 0⟩⟩,
    ⟨.packet (Handler.askingPacket [[99]]), ⟨1, 0⟩⟩]
  ending := .returned

/-- The header has 216 bytes and the first line 106; of the second line ten bytes fit. -/
theorem second_line_is_cut_off :
    let whole := run Handler.unrestricted pairSource none { capacity := .unlimited }
    let limited := run Handler.unrestricted pairSource none { capacity := .room 332 }
    pairSource.ending = .returned ∧
      limited.progress.writer.accepted = whole.progress.writer.accepted.take (216 + 106 + 10) ∧
      limited.progress.tally.emitted = 1 ∧ limited.progress.tally.emitErrors = 1 := by
  intro whole limited
  obtain ⟨-, -, -, accepted, -, -, within, judged, -⟩ :=
    filled_writer_keeps_prefix Handler.unrestricted pairSource rfl none 332
  have one : limited.progress.tally.emitted = 1 := within.trans (by decide +kernel)
  have two : whole.progress.tally.emitted = 2 := by decide +kernel
  have both : limited.progress.tally.emitted + limited.progress.tally.emitErrors = 2 :=
    judged.trans two
  rw [one] at both
  exact ⟨rfl, accepted, one, Nat.add_left_cancel both⟩

end Watch
end QueryWatch
