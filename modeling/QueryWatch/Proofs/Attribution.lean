import QueryWatch.Proofs.Accounting
import QueryWatch.Proofs.FillingUp

/-!
# What process lookup can change

Two runs that differ in their process tables and in nothing else. A query is read and judged
before its process is looked up, and a lookup has no way to fail: what cannot be inspected is
named by a placeholder. With a writer that works, the runs therefore judge every capture alike
and make the same record of it; only the sender beside the record may differ. Counters and the
list of processes asked for depend on the outcomes without their senders, and are the same.

A writer that fills up is another matter, since the name of a process decides how long a line
is.
-/
namespace QueryWatch

theorem ProcessEntry.identify_id (entry : ProcessEntry) (id : UInt32) :
    (entry.identify id).id = id := by
  unfold identify
  split <;> rfl

namespace ProcessTable

/-- The number is one of a process and its entry can be opened. -/
def Opens (table : ProcessTable) (id : UInt32) : Prop :=
  id ≤ maxId ∧ table id ≠ none

variable (table : ProcessTable) (id : UInt32)

theorem lookup_id : (table.lookup id).sender.id = id := by
  unfold lookup
  split
  · rfl
  · split
    · rfl
    · exact ProcessEntry.identify_id _ id

theorem lookup_of_not_opens (closed : ¬table.Opens id) :
    (table.lookup id).sender = .placeholder id := by
  unfold lookup
  split
  · rfl
  next within =>
    have unlisted : table id = none :=
      by_contra fun listed => closed ⟨UInt32.not_lt.1 within, listed⟩
    rw [unlisted]

end ProcessTable

/-- The same outcome in two runs, up to the sender of a record. Neither run failed to write. -/
inductive Outcome.SameButSender : Outcome → Outcome → Prop
  | malformed : SameButSender .malformed .malformed
  | filtered (reason : Rejection) : SameButSender (.filtered reason) (.filtered reason)
  | emitted (query : Query) (sender other : Sender) :
      SameButSender (.emitted ⟨query, sender⟩) (.emitted ⟨query, other⟩)

namespace Outcome.SameButSender

variable {outcome other : Outcome}

theorem record_eq (same : outcome.SameButSender other) (tally : Tally) :
    tally.record other = tally.record outcome := by
  cases same <;> rfl

theorem asked?_eq (same : outcome.SameButSender other) : other.asked? = outcome.asked? := by
  cases same <;> rfl

end Outcome.SameButSender

/-- The ledgers of two runs whose writers work: counters and processes asked for are the
same. -/
structure Progress.Matches (progress other : Progress) : Prop where
  working : progress.writer.capacity = .unlimited
  other_working : other.writer.capacity = .unlimited
  tally : other.tally = progress.tally
  asked : other.asked = progress.asked

namespace Handler

section Working

variable (handler : Handler) {progress : Progress}

theorem publish_of_working (working : progress.writer.capacity = .unlimited) (query : Query) :
    (handler.publish progress query).2
        = .emitted ⟨query, (handler.resolver query.processId).sender⟩ ∧
      (handler.publish progress query).1.writer.capacity = .unlimited := by
  rw [publish_outcome, publish_writer, Display.emit, Writer.writePieces_of_unlimited working,
    Writer.capacity_flush]
  exact ⟨if_pos rfl, working⟩

theorem start_of_working (working : progress.writer.capacity = .unlimited) :
    (handler.start progress).writer.capacity = .unlimited := by
  rw [start_writer]
  unfold Display.writeHeader
  split
  · rw [Writer.writePieces_of_unlimited working, Writer.capacity_flush]
    exact working
  · exact working

theorem handle_of_working (working : progress.writer.capacity = .unlimited)
    (arrival : Arrival) :
    (handler.handle progress arrival).1.writer.capacity = .unlimited := by
  obtain ⟨notices, outcome, -, -, handled⟩ | ⟨query, -, -, handled⟩ :=
    handler.handle_cases arrival
  · rw [handled]
    exact working
  · have received : (progress.note (arrivalNotices arrival.capture)).writer.capacity
        = .unlimited := working
    rw [handled]
    exact (handler.publish_of_working received query).2

end Working

/-- The handler with another process table. -/
def withTable (handler : Handler) (table : ProcessTable) : Handler :=
  { handler with resolver := table.lookup }

variable (handler : Handler) (table other : ProcessTable) {progress second : Progress}

/-- Reading and judging come before the lookup, and a working writer fails in neither run. -/
theorem handle_sameButSender (matched : progress.Matches second) (arrival : Arrival) :
    ((handler.withTable table).handle progress arrival).2.SameButSender
      ((handler.withTable other).handle second arrival).2 := by
  cases read : Query.ofCapture? arrival.now arrival.capture with
  | none =>
    simp only [handle, read]
    exact .malformed
  | some query =>
    cases judged : handler.admission.rejection? query with
    | some reason =>
      simp only [handle, read, withTable, judged]
      exact .filtered reason
    | none =>
      have published (table : ProcessTable) {progress : Progress}
          (working : progress.writer.capacity = .unlimited) :
          ((handler.withTable table).handle progress arrival).2
            = .emitted ⟨query, (table.lookup query.processId).sender⟩ := by
        have received : (progress.note (arrivalNotices arrival.capture)).writer.capacity
            = .unlimited := working
        simp only [handle, read, withTable, judged]
        exact (publish_of_working _ received query).1
      rw [published table matched.working, published other matched.other_working]
      exact .emitted query _ _

theorem handle_matches (matched : progress.Matches second) (arrival : Arrival) :
    ((handler.withTable table).handle progress arrival).1.Matches
      ((handler.withTable other).handle second arrival).1 := by
  have same := handler.handle_sameButSender table other matched arrival
  have effect := (handler.withTable table).handle_effect progress arrival
  have other_effect := (handler.withTable other).handle_effect second arrival
  exact
    { working := (handler.withTable table).handle_of_working matched.working arrival
      other_working := (handler.withTable other).handle_of_working matched.other_working arrival
      tally := by rw [other_effect.tally, effect.tally, matched.tally, same.record_eq]
      asked := by rw [other_effect.asked, effect.asked, matched.asked, same.asked?_eq] }

theorem outcomes_sameButSender (matched : progress.Matches second) (arrivals : List Arrival) :
    List.Forall₂ Outcome.SameButSender ((handler.withTable table).outcomes progress arrivals)
      ((handler.withTable other).outcomes second arrivals) := by
  induction arrivals generalizing progress second with
  | nil => exact .nil
  | cons arrival rest ih =>
    exact .cons (handler.handle_sameButSender table other matched arrival)
      (ih (handler.handle_matches table other matched arrival))

theorem handleAll_matches (matched : progress.Matches second) (arrivals : List Arrival) :
    ((handler.withTable table).handleAll progress arrivals).Matches
      ((handler.withTable other).handleAll second arrivals) := by
  induction arrivals generalizing progress second with
  | nil => exact matched
  | cons arrival rest ih => exact ih (handler.handle_matches table other matched arrival)

/-- Every record that is written comes with the sender that the lookup of its process gives. -/
theorem sender_of_emitted {arrivals : List Arrival} {s : Sighting}
    (written : .emitted s ∈ handler.outcomes progress arrivals) :
    s.sender = (handler.resolver s.query.processId).sender := by
  induction arrivals generalizing progress with
  | nil => exact absurd written List.not_mem_nil
  | cons arrival rest ih =>
    rcases List.mem_cons.1 written with first | later
    · have judges := handler.handle_judges progress arrival
      rw [← first] at judges
      cases judges with
      | published read admitted sighting =>
        obtain rfl := Option.some.inj sighting
        rfl
    · exact ih later

/-- With a writer that works, another process table changes no outcome but in the sender of a
record, and neither the counters nor the list of processes asked for. A sender always has the
process id of its record, and is the placeholder of that id unless the process can be opened. -/
theorem run_depends_on_lookup_for_senders_only (writer : Writer)
    (working : writer.capacity = .unlimited) (arrivals : List Arrival) :
    let first := handler.withTable table
    let second := handler.withTable other
    List.Forall₂ Outcome.SameButSender
        (first.outcomes (first.start { writer := writer }) arrivals)
        (second.outcomes (second.start { writer := writer }) arrivals) ∧
      (second.run { writer := writer } arrivals).tally
        = (first.run { writer := writer } arrivals).tally ∧
      (second.run { writer := writer } arrivals).asked
        = (first.run { writer := writer } arrivals).asked ∧
      (∀ s, .emitted s ∈ first.outcomes (first.start { writer := writer }) arrivals →
        s.sender.id = s.query.processId ∧
          (¬table.Opens s.query.processId → s.sender = .placeholder s.query.processId)) ∧
      ∀ id, ¬table.Opens id → (table.lookup id).sender = .placeholder id := by
  intro first second
  have begun : (first.start { writer := writer }).Matches (second.start { writer := writer }) := by
    refine ⟨start_of_working first working, start_of_working second working, rfl, rfl⟩
  have ended := handler.handleAll_matches table other begun arrivals
  refine ⟨handler.outcomes_sameButSender table other begun arrivals, ended.tally, ended.asked,
    fun s written => ?_, fun id => table.lookup_of_not_opens id⟩
  rw [first.sender_of_emitted written]
  exact ⟨table.lookup_id _, table.lookup_of_not_opens _⟩

/-- Process 812 can be opened in one table, where its command is all that can be read, and not
in the other. The second packet comes from a process that no table can have. -/
theorem run_depends_on_lookup_for_senders_only_of_lost_process :
    let table : ProcessTable := .ofList [(812, ⟨some "curl".toList, none, none⟩)]
    let other : ProcessTable := fun _ => none
    let far : Packet := { askingPacket [[98]] with processId := ProcessTable.maxId + 1 }
    let arrivals : List Arrival :=
      [⟨.packet (askingPacket [[97]]), ⟨5, 0⟩⟩, ⟨.packet far, ⟨6, 0⟩⟩]
    let known : Sighting :=
      ⟨{ (askingSighting "a".toList).query with time := ⟨5, 0⟩ }, ⟨812, "curl".toList, []⟩⟩
    let lost : Sighting :=
      ⟨{ (askingSighting "b".toList).query with time := ⟨6, 0⟩, processId := far.processId },
        .placeholder far.processId⟩
    let first := unrestricted.withTable table
    let second := unrestricted.withTable other
    let writer : Writer := { capacity := .unlimited }
    first.outcomes (first.start { writer := writer }) arrivals = [.emitted known, .emitted lost] ∧
      List.Forall₂ Outcome.SameButSender [.emitted known, .emitted lost]
        (second.outcomes (second.start { writer := writer }) arrivals) ∧
      (second.run { writer := writer } arrivals).tally.emitted = 2 ∧
      ¬table.Opens far.processId ∧ (table.lookup far.processId).sender = lost.sender := by
  intro table other far arrivals known lost first second writer
  obtain ⟨same, tally, -, -, placed⟩ :=
    unrestricted.run_depends_on_lookup_for_senders_only table other writer rfl arrivals
  have outcomes : first.outcomes (first.start { writer := writer }) arrivals
      = [.emitted known, .emitted lost] := by
    decide +kernel
  have two : (first.run { writer := writer } arrivals).tally.emitted = 2 := by decide +kernel
  have closed : ¬table.Opens far.processId := fun opens => absurd opens.1 (by decide)
  rw [outcomes] at same
  exact ⟨outcomes, same, by rw [tally, two], closed, placed far.processId closed⟩

end Handler
end QueryWatch
