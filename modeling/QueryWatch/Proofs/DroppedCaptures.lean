import QueryWatch.Proofs.Cleaning
import QueryWatch.Proofs.FillingUp

/-!
# Dropped captures

A capture without a query, or with one that is rejected, is dropped before the process is
looked up and before anything is rendered. A run that meets such captures goes on beside the
run without them: writer and list of processes asked for stay the same, and so does all that
the two runs make of the captures they have in common, since the writer is the only part of
the ledger that an outcome depends on. What remains of a dropped capture are two counts, one
of captures and one of malformed or filtered ones.

The clock is read for packets only. A packet in both runs is met at the same time, a report
in both may be met at different times.
-/
namespace QueryWatch

/-- One capture in two runs, with the same reading of the clock if it is read at all. -/
structure Arrival.Alike (arrival other : Arrival) : Prop where
  capture : other.capture = arrival.capture
  clock : ∀ packet, arrival.capture = .packet packet → other.now = arrival.now

variable {arrival other : Arrival}

theorem Arrival.Alike.ofCapture?_eq (alike : arrival.Alike other) :
    Query.ofCapture? other.now other.capture = Query.ofCapture? arrival.now arrival.capture := by
  rw [alike.capture]
  cases met : arrival.capture with
  | packet packet => rw [alike.clock packet met]
  | report report => rfl

/-- The captures of one run, others, and the captures of a second run: those of the first with
the others put in at any positions. -/
inductive Inserts : List Arrival → List Arrival → List Arrival → Prop
  | nil : Inserts [] [] []
  | common {arrival other : Arrival} {kept extra all : List Arrival}
      (alike : arrival.Alike other) (rest : Inserts kept extra all) :
      Inserts (arrival :: kept) extra (other :: all)
  | extra (arrival : Arrival) {kept extra all : List Arrival} (rest : Inserts kept extra all) :
      Inserts kept (arrival :: extra) (arrival :: all)

/-- The counters of a run beside those of one with n more captures, all of them dropped. -/
structure Tally.Undisturbed (n : Nat) (plain mixed : Tally) : Prop where
  emitted : mixed.emitted = plain.emitted
  emitErrors : mixed.emitErrors = plain.emitErrors
  received : mixed.received = plain.received + n
  dropped : mixed.malformed + mixed.filtered = plain.malformed + plain.filtered + n

namespace Tally.Undisturbed

variable {n : Nat} {plain mixed : Tally}

theorem record (beside : Undisturbed n plain mixed) (outcome : Outcome) :
    Undisturbed n (plain.record outcome) (mixed.record outcome) := by
  obtain ⟨emitted, emitErrors, received, dropped⟩ := beside
  constructor <;> cases outcome <;> simp only [Tally.record] <;> omega

theorem record_dropped (beside : Undisturbed n plain mixed) {outcome : Outcome}
    (unwritten : outcome.sighting? = none) :
    Undisturbed (n + 1) plain (mixed.record outcome) := by
  obtain ⟨emitted, emitErrors, received, dropped⟩ := beside
  obtain rfl | ⟨reason, rfl⟩ := Outcome.sighting?_eq_none_iff.1 unwritten
  · constructor <;> simp only [Tally.record] <;> omega
  · constructor <;> simp only [Tally.record] <;> omega

end Tally.Undisturbed

/-- A run beside one with n more captures, all of them dropped. -/
structure Progress.Undisturbed (n : Nat) (plain mixed : Progress) : Prop where
  writer : mixed.writer = plain.writer
  asked : mixed.asked = plain.asked
  tally : plain.tally.Undisturbed n mixed.tally

namespace Progress.Undisturbed

variable {n : Nat} {plain mixed : Progress}

theorem refl (progress : Progress) : progress.Undisturbed 0 progress :=
  ⟨rfl, rfl, rfl, rfl, rfl, rfl⟩

theorem note (beside : plain.Undisturbed n mixed) (notices more : List Notice) :
    (plain.note notices).Undisturbed n (mixed.note more) :=
  ⟨beside.writer, beside.asked, beside.tally⟩

theorem conclude (beside : plain.Undisturbed n mixed) (outcome : Outcome) :
    (plain.conclude outcome).1.Undisturbed n (mixed.conclude outcome).1 :=
  ⟨beside.writer, beside.asked, beside.tally.record outcome⟩

theorem conclude_dropped (beside : plain.Undisturbed n mixed) (notices : List Notice)
    {outcome : Outcome} (unwritten : outcome.sighting? = none) :
    plain.Undisturbed (n + 1) ((mixed.note notices).conclude outcome).1 :=
  ⟨beside.writer, beside.asked, beside.tally.record_dropped unwritten⟩

end Progress.Undisturbed

namespace Handler

/-- A capture that is dropped: it holds no query, or one that is rejected. -/
def Drops (handler : Handler) (arrival : Arrival) : Prop :=
  ∀ query ∈ Query.ofCapture? arrival.now arrival.capture,
    handler.admission.rejection? query ≠ none

instance (handler : Handler) (arrival : Arrival) : Decidable (handler.Drops arrival) :=
  inferInstanceAs (Decidable (∀ query ∈ _, _))

theorem Judges.drops {handler : Handler} {outcome : Outcome}
    (judges : handler.Judges arrival outcome) (unwritten : outcome.sighting? = none) :
    handler.Drops arrival := by
  intro query read
  cases judges with
  | malformed unread => exact absurd (unread.symm.trans read) (by simp)
  | filtered known refused =>
    obtain rfl := Option.some.inj (known.symm.trans read)
    simp [refused]
  | published _ _ sighting => exact absurd (unwritten.symm.trans sighting) (by simp)

variable (handler : Handler)

/-- Dropping a capture takes notes and counts an outcome that is not written. -/
theorem handle_of_drops (drops : handler.Drops arrival) :
    ∃ notices outcome, outcome.sighting? = none ∧ ∀ progress,
      handler.handle progress arrival = (progress.note notices).conclude outcome := by
  obtain ⟨notices, outcome, -, unwritten, handled⟩ | ⟨query, read, admitted, -⟩ :=
    handler.handle_cases arrival
  · exact ⟨notices, outcome, unwritten, handled⟩
  · exact absurd admitted (drops query read)

/-- The dropped captures are those whose outcome, in any run, is malformed or filtered. -/
theorem drops_iff (progress : Progress) :
    handler.Drops arrival ↔ (handler.handle progress arrival).2.sighting? = none := by
  constructor
  · intro drops
    obtain ⟨_, _, unwritten, handled⟩ := handler.handle_of_drops drops
    rw [handled]
    exact unwritten
  · exact (handler.handle_judges progress arrival).drops

variable {n : Nat} {plain mixed : Progress}

theorem handle_dropped_undisturbed (drops : handler.Drops arrival)
    (beside : plain.Undisturbed n mixed) :
    plain.Undisturbed (n + 1) (handler.handle mixed arrival).1 := by
  obtain ⟨notices, _, unwritten, handled⟩ := handler.handle_of_drops drops
  rw [handled]
  exact beside.conclude_dropped notices unwritten

theorem publish_undisturbed (beside : plain.Undisturbed n mixed) (query : Query) :
    (handler.publish plain query).1.Undisturbed n (handler.publish mixed query).1 := by
  have same : (handler.publish mixed query).2 = (handler.publish plain query).2 := by
    rw [publish_outcome, publish_outcome, beside.writer]
  have plainly := handler.publish_effect plain query
  have mixedly := handler.publish_effect mixed query
  refine ⟨?_, ?_, ?_⟩
  · rw [publish_writer, publish_writer, beside.writer]
  · rw [mixedly.asked, plainly.asked, same, beside.asked]
  · rw [mixedly.tally, plainly.tally, same]
    exact beside.tally.record _

/-- A capture that both runs meet leaves them beside each other. -/
theorem handle_undisturbed (beside : plain.Undisturbed n mixed) (arrival : Arrival) :
    (handler.handle plain arrival).1.Undisturbed n (handler.handle mixed arrival).1 := by
  obtain ⟨_, outcome, -, -, handled⟩ | ⟨query, -, -, handled⟩ := handler.handle_cases arrival
  · rw [handled, handled]
    exact (beside.note _ _).conclude outcome
  · rw [handled, handled]
    exact handler.publish_undisturbed (beside.note _ _) query

theorem handle_of_alike (alike : arrival.Alike other) (progress : Progress) :
    handler.handle progress other = handler.handle progress arrival := by
  rw [handle, handle, alike.ofCapture?_eq, alike.capture]

theorem handleAll_undisturbed {kept extra all : List Arrival} (inserts : Inserts kept extra all)
    (drops : ∀ arrival ∈ extra, handler.Drops arrival) (beside : plain.Undisturbed n mixed) :
    (handler.handleAll plain kept).Undisturbed (extra.length + n)
      (handler.handleAll mixed all) := by
  induction inserts generalizing n plain mixed with
  | nil =>
    rw [List.length_nil, Nat.zero_add]
    exact beside
  | common alike _ ih =>
    rw [handleAll, handleAll, handler.handle_of_alike alike]
    exact ih drops (handler.handle_undisturbed beside _)
  | extra arrival _ ih =>
    obtain ⟨first, others⟩ := List.forall_mem_cons.1 drops
    rw [List.length_cons, Nat.add_right_comm]
    exact ih others (handler.handle_dropped_undisturbed first beside)

/-- Dropped captures, put in at any positions, leave the writer, the processes asked for and
the counts of written and unwritten records as they are. They count as received, and each as
malformed or filtered. -/
theorem run_is_undisturbed_by_dropped (writer : Writer) {kept extra all : List Arrival}
    (inserts : Inserts kept extra all) (drops : ∀ arrival ∈ extra, handler.Drops arrival) :
    let plain := handler.run { writer := writer } kept
    let mixed := handler.run { writer := writer } all
    mixed.writer = plain.writer ∧
      mixed.asked = plain.asked ∧
      mixed.tally.emitted = plain.tally.emitted ∧
      mixed.tally.emitErrors = plain.tally.emitErrors ∧
      mixed.tally.received = plain.tally.received + extra.length ∧
      mixed.tally.malformed + mixed.tally.filtered
        = plain.tally.malformed + plain.tally.filtered + extra.length := by
  intro plain mixed
  have beside : plain.Undisturbed extra.length mixed :=
    (handler.handleAll_undisturbed inserts drops
      (.refl (handler.start { writer := writer }))).note _ _
  obtain ⟨same_writer, asked, emitted, emitErrors, received, dropped⟩ := beside
  exact ⟨same_writer, asked, emitted, emitErrors, received, dropped⟩

/-- Four captures that are dropped, for their length, a denied name, a blank one and the mark of
a response, around two others of which the second finds no room for its record. -/
theorem run_is_undisturbed_by_four_dropped :
    let handler : Handler := { unrestricted with admission := .ofRules [.deny " Ads".toList] }
    let packet (payload : Octets) : Capture := .packet { askingPacket [] with payload := payload }
    let asking (labels : List Octets) : Capture := .packet (askingPacket labels)
    let named (name : String) : Capture := .report (Query.namedReport name.toList)
    let kept : List Arrival := [⟨asking [[97]], ⟨5, 0⟩⟩, ⟨named "b.example", ⟨6, 0⟩⟩]
    let extra : List Arrival := [⟨packet [0, 1], ⟨1, 0⟩⟩, ⟨asking [[65, 68, 83]], ⟨5, 0⟩⟩,
      ⟨named " ", ⟨5, 0⟩⟩, ⟨packet (0 :: 0 :: 128 :: List.replicate 14 1), ⟨9, 0⟩⟩]
    let all : List Arrival := [⟨packet [0, 1], ⟨1, 0⟩⟩, ⟨asking [[97]], ⟨5, 0⟩⟩,
      ⟨asking [[65, 68, 83]], ⟨5, 0⟩⟩, ⟨named " ", ⟨5, 0⟩⟩, ⟨named "b.example", ⟨8, 0⟩⟩,
      ⟨packet (0 :: 0 :: 128 :: List.replicate 14 1), ⟨9, 0⟩⟩]
    let plain := handler.run { writer := { capacity := .room 330 } } kept
    let mixed := handler.run { writer := { capacity := .room 330 } } all
    Inserts kept extra all ∧ (∀ arrival ∈ extra, handler.Drops arrival) ∧
      mixed.writer = plain.writer ∧ mixed.asked = [812, 812] ∧
      mixed.tally.emitted = 1 ∧ mixed.tally.emitErrors = 1 ∧ mixed.tally.received = 2 + 4 ∧
      mixed.tally.malformed + mixed.tally.filtered = 4 := by
  intro handler packet asking named kept extra all plain mixed
  have inserts : Inserts kept extra all :=
    .extra _ <| .common ⟨rfl, fun _ _ => rfl⟩ <| .extra _ <| .extra _ <|
      .common ⟨rfl, nofun⟩ <| .extra _ .nil
  have drops : ∀ arrival ∈ extra, handler.Drops arrival := by decide +kernel
  obtain ⟨writer, asked, emitted, emitErrors, received, dropped⟩ :=
    handler.run_is_undisturbed_by_dropped { capacity := .room 330 } inserts drops
  have plainly : plain.asked = [812, 812] ∧ plain.tally = ⟨2, 0, 0, 1, 1⟩ := by decide +kernel
  rw [plainly.1] at asked
  rw [plainly.2] at emitted emitErrors received dropped
  exact ⟨inserts, drops, writer, asked, emitted, emitErrors, received, dropped⟩

end Handler
end QueryWatch
