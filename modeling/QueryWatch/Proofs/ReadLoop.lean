import QueryWatch.Probe
import QueryWatch.Proofs.Samples

/-!
# The read loop of the kernel probes

What has happened since the first poll decides all that the loop does: how the samples, the
leaving of the receiver and the stop signal follow each other. A record that comes after the
receiver has left is refused; the packets of the records before it have been sent. The loop
ends after the first poll by whose end a record was refused or the stop signal was up. How a
poll failed decides at most whether there is a notice of it.

After the polls of the script comes one that raises the stop signal, so the loop does end.
-/
namespace QueryWatch.Probe

/-- The sample of an incident, if it is long enough for a record. -/
def Incident.record? : Incident → Option Octets
  | .sample bytes => if bytes.length < Packet.layout.total then none else some bytes
  | _ => none

/-- A record that nobody receives any more. -/
def Refuses (before : List Incident) (incident : Incident) : Prop :=
  .receiverLeaves ∈ before ∧ incident.record? ≠ none

def Refused (incidents : List Incident) : Prop :=
  ∃ before incident after, incidents = before ++ incident :: after ∧ Refuses before incident

/-- The incidents up to the first record that is refused. -/
inductive UntilRefused (incidents : List Incident) : List Incident → Prop
  | all (received : ¬Refused incidents) : UntilRefused incidents incidents
  | cut {before after : List Incident} {incident : Incident}
      (split : incidents = before ++ incident :: after) (received : ¬Refused before)
      (refuses : Refuses before incident) : UntilRefused incidents before

/-- The packets are those of the records up to the first that is refused. -/
def Sends (incidents : List Incident) (packets : List Packet) : Prop :=
  ∃ delivered, UntilRefused incidents delivered ∧
    packets.map some = (delivered.filterMap Incident.record?).map Packet.ofSample?

section Incidents

variable {met : List Incident} {incident : Incident} {packets : List Packet}

theorem refused_concat : Refused (met ++ [incident]) ↔ Refused met ∨ Refuses met incident := by
  constructor
  · rintro ⟨before, other, after, split, refuses⟩
    rcases List.eq_nil_or_concat after with rfl | ⟨middle, last, rfl⟩
    · obtain ⟨rfl, same⟩ := List.append_inj' split rfl
      obtain rfl := List.head_eq_of_cons_eq same
      exact .inr refuses
    · rw [List.concat_eq_append, ← List.cons_append, ← List.append_assoc] at split
      exact .inl ⟨before, other, middle, (List.append_inj' split rfl).1, refuses⟩
  · rintro (⟨before, other, after, rfl, refuses⟩ | refuses)
    · exact ⟨before, other, after ++ [incident], by simp, refuses⟩
    · exact ⟨met, incident, [], rfl, refuses⟩

/-- A record that is refused, then or before, adds nothing to what was sent. -/
theorem Sends.concat_of_refused (sends : Sends met packets)
    (refused : Refused (met ++ [incident])) : Sends (met ++ [incident]) packets := by
  obtain ⟨delivered, begins, taken⟩ := sends
  -- Either this is the first record refused, or what was delivered had ended before.
  cases begins with
  | all received =>
    have refuses := (refused_concat.1 refused).resolve_left received
    exact ⟨met, .cut rfl received refuses, taken⟩
  | @cut _ after other split received refuses =>
    have longer : met ++ [incident] = delivered ++ other :: (after ++ [incident]) := by
      rw [split, List.append_assoc, List.cons_append]
    exact ⟨delivered, .cut longer received refuses, taken⟩

theorem Sends.concat_of_received (sends : Sends met packets)
    (received : ¬Refused (met ++ [incident])) (more : List Packet)
    (more_taken : more.map some = incident.record?.toList.map Packet.ofSample?) :
    Sends (met ++ [incident]) (packets ++ more) := by
  obtain ⟨delivered, begins, taken⟩ := sends
  cases begins with
  | all =>
    have last : [incident].filterMap Incident.record? = incident.record?.toList := by
      cases found : incident.record? <;> simp [found]
    refine ⟨_, .all received, ?_⟩
    rw [List.map_append, taken, more_taken, List.filterMap_append, List.map_append, last]
  | cut split _ refuses =>
    exact absurd (refused_concat.2 (.inl ⟨_, _, _, split, refuses⟩)) received

end Incidents

theorem Incident.record?_sample (bytes : Octets) :
    (Incident.sample bytes).record? = (Packet.ofSample? bytes).map fun _ => bytes := by
  rw [record?, Packet.ofSample?]
  split <;> rfl

namespace ReadState

variable (state : ReadState) (incident : Incident)

theorem meet_ledger : (state.meet incident).ledger = state.ledger := by
  unfold meet send
  repeat' split
  all_goals rfl

theorem meet_present :
    (state.meet incident).receiverPresent = true ↔
      state.receiverPresent = true ∧ incident ≠ .receiverLeaves := by
  unfold meet send
  repeat' split
  all_goals simp [*]

theorem meet_stopped :
    (state.meet incident).stopped = true ↔ state.stopped = true ∨ incident = .stopRaised := by
  unfold meet send
  repeat' split
  all_goals simp

theorem meet_refused :
    (state.meet incident).refused = true ↔
      state.refused = true ∨ state.receiverPresent = false ∧ incident.record? ≠ none := by
  cases incident with
  | receiverLeaves => simp [meet, Incident.record?]
  | stopRaised => simp [meet, Incident.record?]
  | sample bytes =>
    rw [Incident.record?_sample]
    simp only [meet, send]
    split
    next refused => simp [refused]
    next received =>
      cases Packet.ofSample? bytes with
      | none => simp
      | some packet => cases present : state.receiverPresent <;> simp [received]

/-- An incident adds the packet of its record, unless it or an earlier one is refused. -/
theorem meet_sent :
    ∃ more, (state.meet incident).sent = state.sent ++ more ∧
      ((state.meet incident).refused = true → more = []) ∧
      ((state.meet incident).refused = false →
        more.map some = incident.record?.toList.map Packet.ofSample?) := by
  cases incident with
  | receiverLeaves => exact ⟨[], by simp [meet, Incident.record?]⟩
  | stopRaised => exact ⟨[], by simp [meet, Incident.record?]⟩
  | sample bytes =>
    rw [Incident.record?_sample]
    simp only [meet, send]
    split
    next refused => exact ⟨[], by simp [refused]⟩
    next received =>
      cases read : Packet.ofSample? bytes with
      | none => exact ⟨[], by simp⟩
      | some packet =>
        cases present : state.receiverPresent with
        | true => exact ⟨[packet], by simp [received, read]⟩
        | false => exact ⟨[], by simp⟩

end ReadState

/-- What a state of the loop knows of the incidents met so far. -/
structure Reflects (stopped : Bool) (met : List Incident) (state : ReadState) : Prop where
  present : state.receiverPresent = true ↔ .receiverLeaves ∉ met
  refused : state.refused = true ↔ Refused met
  stopped : state.stopped = true ↔ stopped = true ∨ .stopRaised ∈ met
  sent : Sends met state.sent

namespace Reflects

variable {stopped : Bool} {met : List Incident} {state : ReadState}

theorem start (stopped : Bool) (ledger : Ledger) :
    Reflects stopped [] { stopped := stopped, ledger := ledger } := by
  have received : ¬Refused [] := by
    rintro ⟨before, incident, after, split, -⟩
    simp at split
  exact
    { present := by simp
      refused := by simp [received]
      stopped := by simp
      sent := ⟨[], .all received, rfl⟩ }

theorem meet (reflects : Reflects stopped met state) (incident : Incident) :
    Reflects stopped (met ++ [incident]) (state.meet incident) := by
  have left : state.receiverPresent = false ↔ .receiverLeaves ∈ met := by
    rw [← Bool.not_eq_true, reflects.present, not_not]
  have refused : (state.meet incident).refused = true ↔ Refused (met ++ [incident]) := by
    rw [state.meet_refused, refused_concat, reflects.refused, left, Refuses]
  refine ⟨?_, refused, ?_, ?_⟩
  · rw [state.meet_present, reflects.present, List.mem_append, List.mem_singleton,
      not_or, ne_comm]
  · rw [state.meet_stopped, reflects.stopped, List.mem_append, List.mem_singleton,
      or_assoc, @eq_comm _ incident]
  · obtain ⟨more, sent, lost, delivered⟩ := state.meet_sent incident
    rw [sent]
    cases full : (state.meet incident).refused with
    | true =>
      rw [lost full, List.append_nil]
      exact reflects.sent.concat_of_refused (refused.1 full)
    | false =>
      have received : ¬Refused (met ++ [incident]) := by rw [← refused, full]; simp
      exact reflects.sent.concat_of_received received more (delivered full)

theorem of_ledger (reflects : Reflects stopped met state) (ledger : Ledger) :
    Reflects stopped met { state with ledger := ledger } :=
  ⟨reflects.present, reflects.refused, reflects.stopped, reflects.sent⟩

theorem foldl_meet (reflects : Reflects stopped met state) (incidents : List Incident) :
    Reflects stopped (met ++ incidents) (incidents.foldl ReadState.meet state) := by
  induction incidents generalizing met state with
  | nil => rwa [List.append_nil]
  | cons incident rest ih =>
    rw [List.append_cons]
    exact ih (reflects.meet incident)

theorem poll (reflects : Reflects stopped met state) (incidents : List Incident) :
    Reflects stopped (met ++ incidents) (state.poll incidents) :=
  (reflects.of_ledger _).foldl_meet incidents

end Reflects

theorem ReadState.poll_ledger (state : ReadState) (incidents : List Incident) :
    (state.poll incidents).ledger = state.ledger.add [.poll pollMillis] [] := by
  have kept (begun : ReadState) : (incidents.foldl meet begun).ledger = begun.ledger := by
    induction incidents generalizing begun with
    | nil => rfl
    | cons incident rest ih => exact (ih _).trans (begun.meet_ledger incident)
  exact kept _

/-- What a failed poll is worth, if the loop goes on. -/
def Poll.warning? (poll : Poll) : Option Notice :=
  match poll.fault with
  | none => none
  | some fault => if fault.interrupted then none else some (.pollFailed fault.cause)

/-- What ends the loop after a poll. -/
def Ends (stopped : Bool) (met : List Incident) : Prop :=
  Refused met ∨ stopped = true ∨ .stopRaised ∈ met

def EndReason.after (refused : Bool) : EndReason :=
  if refused then .consumerClosed else .stopRequested

theorem Ledger.add_add (ledger : Ledger) (calls more : List Call) (notices further : List Notice) :
    (ledger.add calls notices).add more further
      = ledger.add (calls ++ more) (notices ++ further) := by
  simp only [add, List.append_assoc]

section ReadLoop

variable {state : ReadState} {poll : Poll} {rest : List Poll}

theorem readLoop_cons_of_ends
    (ends : (state.poll poll.incidents).refused = true ∨
      (state.poll poll.incidents).stopped = true) :
    readLoop state (poll :: rest) =
      (state.poll poll.incidents, .after (state.poll poll.incidents).refused) := by
  simp only [readLoop, verdict, EndReason.after]
  cases refused : (state.poll poll.incidents).refused with
  | true => simp
  | false =>
    have stopped := ends.resolve_left (by simp [refused])
    simp [stopped]

theorem readLoop_cons_of_not_ends
    (ends : ¬((state.poll poll.incidents).refused = true ∨
      (state.poll poll.incidents).stopped = true)) :
    readLoop state (poll :: rest) =
      readLoop { state.poll poll.incidents with
        ledger := state.ledger.add [.poll pollMillis] poll.warning?.toList } rest := by
  have polled := state.poll_ledger poll.incidents
  obtain ⟨received, running⟩ := not_or.1 ends
  simp only [readLoop, verdict, if_neg received, if_neg running, Poll.warning?]
  cases poll.fault with
  | none => simp [← polled]
  | some fault =>
    cases interrupted : fault.interrupted with
    | true => simp [← polled, interrupted]
    | false => simp [ReadState.note, polled, Ledger.add_add, interrupted]

end ReadLoop

/-- The poll after those of the script. -/
def finalPoll : Poll := ⟨[.stopRaised], none⟩

theorem readLoop_nil (state : ReadState) :
    readLoop state [] =
      (state.poll finalPoll.incidents, .after (state.poll finalPoll.incidents).refused) := rfl

/-- A loop that goes on after some polls and ends after the next. -/
structure Looped (stopped : Bool) (met : List Incident) (ledger : Ledger) (before : List Poll)
    (poll : Poll) (ended : ReadState × EndReason) : Prop where
  goes_on : ∀ earlier, earlier <+: before → earlier ≠ [] →
    ¬Ends stopped (met ++ earlier.flatMap Poll.incidents)
  ends : Ends stopped (met ++ (before ++ [poll]).flatMap Poll.incidents)
  reflects : Reflects stopped (met ++ (before ++ [poll]).flatMap Poll.incidents) ended.1
  reason : ended.2 = .after ended.1.refused
  ledger : ended.1.ledger = ledger.add (List.replicate (before.length + 1) (.poll pollMillis))
    (before.filterMap Poll.warning?)

theorem Reflects.ends_iff {stopped : Bool} {met : List Incident} {state : ReadState}
    (reflects : Reflects stopped met state) :
    state.refused = true ∨ state.stopped = true ↔ Ends stopped met := by
  rw [reflects.refused, reflects.stopped, Ends]

section Looped

variable {stopped : Bool} {met : List Incident} {state : ReadState}

theorem Looped.last (reflects : Reflects stopped met state) {poll : Poll}
    (ends : Ends stopped (met ++ poll.incidents)) :
    Looped stopped met state.ledger [] poll
      (state.poll poll.incidents, .after (state.poll poll.incidents).refused) where
  goes_on := fun earlier begins filled => absurd (List.prefix_nil.1 begins) filled
  ends := by simpa using ends
  reflects := by simpa using reflects.poll poll.incidents
  reason := rfl
  ledger := state.poll_ledger poll.incidents

theorem Looped.cons {poll : Poll} {before : List Poll} {next : Poll}
    {ended : ReadState × EndReason} (goes_on : ¬Ends stopped (met ++ poll.incidents))
    (looped : Looped stopped (met ++ poll.incidents)
      (state.ledger.add [.poll pollMillis] poll.warning?.toList) before next ended) :
    Looped stopped met state.ledger (poll :: before) next ended where
  goes_on := by
    intro earlier begins filled
    obtain rfl | ⟨others, rfl, continues⟩ := List.prefix_cons_iff.1 begins
    · exact absurd rfl filled
    rw [List.flatMap_cons, ← List.append_assoc]
    by_cases alone : others = []
    · rwa [alone, List.flatMap_nil, List.append_nil]
    · exact looped.goes_on others continues alone
  ends := by
    rw [List.cons_append, List.flatMap_cons, ← List.append_assoc]
    exact looped.ends
  reflects := by
    rw [List.cons_append, List.flatMap_cons, ← List.append_assoc]
    exact looped.reflects
  reason := looped.reason
  ledger := by
    have notices : (poll :: before).filterMap Poll.warning?
        = poll.warning?.toList ++ before.filterMap Poll.warning? := by
      cases warned : poll.warning? <;> simp [warned]
    rw [looped.ledger, Ledger.add_add, notices]
    rfl

/-- The loop ends, since the final poll raises the stop signal. -/
theorem readLoop_looped (reflects : Reflects stopped met state) (polls : List Poll) :
    ∃ before poll after, polls ++ [finalPoll] = before ++ poll :: after ∧
      Looped stopped met state.ledger before poll (readLoop state polls) := by
  -- The polls still to come see the incidents before them only through the state.
  induction polls generalizing met state with
  | nil =>
    have ends : Ends stopped (met ++ finalPoll.incidents) := .inr (.inr (by simp [finalPoll]))
    rw [readLoop_nil]
    exact ⟨[], finalPoll, [], rfl, .last reflects ends⟩
  | cons poll rest ih =>
    have polled := reflects.poll poll.incidents
    by_cases ends : Ends stopped (met ++ poll.incidents)
    · rw [readLoop_cons_of_ends (polled.ends_iff.2 ends)]
      exact ⟨[], poll, rest ++ [finalPoll], rfl, .last reflects ends⟩
    · rw [readLoop_cons_of_not_ends (mt polled.ends_iff.1 ends)]
      obtain ⟨before, next, after, split, looped⟩ :=
        ih (polled.of_ledger (state.ledger.add [.poll pollMillis] poll.warning?.toList))
      exact ⟨poll :: before, next, after, congrArg (poll :: ·) split, .cons ends looped⟩

end Looped

def Incident.isShort : Incident → Bool
  | .sample bytes => bytes.length < Packet.layout.total
  | _ => false

def Poll.withoutShort (poll : Poll) : Poll :=
  { poll with incidents := poll.incidents.filter (!·.isShort) }

def Script.withoutShort (script : Script) : Script :=
  { script with polls := script.polls.map Poll.withoutShort }

theorem ReadState.meet_short (state : ReadState) {incident : Incident}
    (short : incident.isShort = true) : state.meet incident = state := by
  cases incident with
  | receiverLeaves => cases short
  | stopRaised => cases short
  | sample bytes =>
    have unread : Packet.ofSample? bytes = none :=
      (Packet.ofSample?_eq_none_iff bytes).2 (of_decide_eq_true short)
    simp [meet, unread]

theorem ReadState.poll_withoutShort (state : ReadState) (poll : Poll) :
    state.poll poll.withoutShort.incidents = state.poll poll.incidents := by
  have passed_over : (fun (state : ReadState) (incident : Incident) =>
      if (!incident.isShort) = true then state.meet incident else state) = meet := by
    funext state incident
    split
    next => rfl
    next short => exact (state.meet_short (by simpa using short)).symm
  rw [ReadState.poll, Poll.withoutShort, List.foldl_filter, passed_over, ReadState.poll]

theorem readLoop_withoutShort (state : ReadState) (polls : List Poll) :
    readLoop state (polls.map Poll.withoutShort) = readLoop state polls := by
  induction polls generalizing state with
  | nil => rfl
  | cons poll rest ih =>
    simp only [List.map_cons, readLoop, state.poll_withoutShort, ih]
    rfl

theorem run_withoutShort (script : Script) : run script.withoutShort = run script := by
  simp only [run, Script.withoutShort, readLoop_withoutShort]

theorem run_of_ready (script : Script) {ledger : Ledger} {last : ReadState} {reason : EndReason}
    (ready : perform {} (setupSteps script.host script.object script.library) = (ledger, none))
    (ended : readLoop { stopped := script.stopped, ledger := ledger } script.polls
      = (last, reason)) :
    run script = ⟨.ok (), last.sent, last.ledger.add (.dropRing :: release) [reason.notice]⟩ := by
  simp only [run, ready, ended]

/-- After a setup that succeeds the loop ends by itself, namely after the first poll by whose end
a record was refused or the stop signal was up. By then exactly the packets of the records up to
the first refused one were sent. There is a notice of each poll that failed without being
interrupted, except of the last. Samples too short for a record could as well be missing. -/
theorem run_ends_at_first_reason (script : Script) (ledger : Ledger)
    (ready : perform {} (setupSteps script.host script.object script.library) = (ledger, none)) :
    (run script).result = .ok () ∧
      (∃ before poll after, script.polls ++ [finalPoll] = before ++ poll :: after ∧
        (∀ earlier, earlier <+: before → earlier ≠ [] →
          ¬Ends script.stopped (earlier.flatMap Poll.incidents)) ∧
        Ends script.stopped ((before ++ [poll]).flatMap Poll.incidents) ∧
        Sends ((before ++ [poll]).flatMap Poll.incidents) (run script).sent ∧
        ∃ reason : EndReason,
          (reason = .consumerClosed ↔ Refused ((before ++ [poll]).flatMap Poll.incidents)) ∧
          (run script).ledger.calls = ledger.calls
            ++ List.replicate (before.length + 1) (.poll pollMillis) ++ .dropRing :: release ∧
          (run script).ledger.notices = ledger.notices
            ++ before.filterMap Poll.warning? ++ [reason.notice]) ∧
      run script.withoutShort = run script := by
  obtain ⟨before, poll, after, split, looped⟩ :=
    readLoop_looped (.start script.stopped ledger) script.polls
  rcases ended : readLoop { stopped := script.stopped, ledger := ledger } script.polls with
    ⟨last, reason⟩
  rw [ended] at looped
  rw [run_withoutShort, run_of_ready script ready ended]
  have reflects : Reflects script.stopped ((before ++ [poll]).flatMap Poll.incidents) last :=
    looped.reflects
  have told : reason = .after last.refused := looped.reason
  have kept : last.ledger = ledger.add _ _ := looped.ledger
  refine ⟨rfl, ⟨before, poll, after, split, looped.goes_on, looped.ends, reflects.sent, reason,
    ?_, ?_, ?_⟩, rfl⟩
  · rw [← reflects.refused, told]
    cases last.refused <;> simp [EndReason.after]
  · simp only [kept, Ledger.add]
  · simp only [kept, Ledger.add]

/-- A kernel that has all the probes need, and polls with records before and after the receiver
leaves. -/
def leavingScript : Script where
  host := ⟨true, 0, .ok (6, 1), none⟩
  object := .embedded [1]
  library := ⟨none, none, [], none, none, [udpPoint.program, tcpPoint.program], [ringName]⟩
  polls :=
    [⟨[.sample [], .sample (Packet.samplePacket.toSample [])], some ⟨false, "busy".toList⟩⟩,
      ⟨[], some ⟨true, "signal".toList⟩⟩,
      ⟨[.stopRaised, .receiverLeaves, .sample (Packet.samplePacket.toSample [])],
        some ⟨false, "refused".toList⟩⟩,
      ⟨[.sample (Packet.samplePacket.toSample [])], none⟩]
  stopped := false

/-- The ledger of a setup without any notices but those of success. -/
def readyLedger : Ledger where
  calls :=
    [.raiseMemoryLimit, .openObject 1, .loadObject,
      .attach udpPoint.program false udpPoint.function,
      .attach tcpPoint.program false tcpPoint.function, .addRing ringName, .buildRing]
  notices :=
    [.probeAttached udpPoint.program udpPoint.function,
      .probeAttached tcpPoint.program tcpPoint.function, .probesReading]

theorem run_ends_when_receiver_left :
    perform {} (setupSteps leavingScript.host leavingScript.object leavingScript.library)
        = (readyLedger, none) ∧
      (run leavingScript).result = .ok () ∧
      (run leavingScript).sent = [Packet.samplePacket] ∧
      (run leavingScript).ledger.notices
        = readyLedger.notices ++ [.pollFailed "busy".toList, .consumerClosed] := by
  have ready : perform {} (setupSteps leavingScript.host leavingScript.object
      leavingScript.library) = (readyLedger, none) := by
    decide +kernel
  obtain ⟨finished, -, -⟩ := run_ends_at_first_reason leavingScript readyLedger ready
  exact ⟨ready, finished, by decide +kernel, by decide +kernel⟩

end QueryWatch.Probe
