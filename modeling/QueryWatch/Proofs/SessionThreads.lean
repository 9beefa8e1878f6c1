import QueryWatch.Proofs.Forwarding

/-!
# The two threads of a trace session

What each thread of a session has done is an invariant of its steps. The callback has made of
the events that it settled what the sequential delivery makes of them; its state stands for that
delivery, once a refusal that is not yet marked is counted in. The capture thread has called and
logged what belongs to its stage, and it has left the waiting for a reason.

The two log into one list. Debug notices are the callback's, all others the capture thread's, so
each invariant speaks of its own part.
-/
namespace QueryWatch

def Notice.isDebug (notice : Notice) : Bool :=
  notice.level == .debug

namespace Trace

/-- The event of an incident. -/
def Incident.event? : Incident → Option Event
  | .receiverLeaves => none
  | .event e => some e

namespace Interleaving

/-- The delivery that a state stands for. -/
def State.delivery (s : State) : Delivery where
  sent := s.sent
  receiverPresent := s.receiverPresent
  refused := s.sinkClosed || s.callback.isRefused
  notices := s.notices.filter Notice.isDebug

/-- What the callback has made of the events so far. -/
structure Forwarded (s : State) : Prop where
  runs : ({} : Delivery).meetAll s.met = .ok s.delivery
  unmarked : s.callback = .idle ∨ s.sinkClosed = false
  told : ∀ e report, s.callback = .sending e report →
    ∃ properties, e.schema = .ok properties ∧ e.report properties = .ok report
  arrived : s.arrived = s.met.filterMap Incident.event? ++ s.callback.event?.toList
  built : s.built = s.sent ++ (refused? s.met).toList ++ s.callback.report?.toList

variable {faults : Faults} {s t : State}

namespace Forwarded

theorem start : Forwarded {} :=
  ⟨rfl, .inl rfl, nofun, rfl, rfl⟩

theorem reflects (forwarded : Forwarded s) : Reflects s.met s.delivery :=
  Reflects.start.meetAll forwarded.runs

/-- A callback that has an event before it has seen no mark. -/
theorem unmarked_of_event (forwarded : Forwarded s) (busy : s.callback.event? ≠ none) :
    s.sinkClosed = false := by
  rcases forwarded.unmarked with idle | unmarked
  · simp [idle, Callback.event?] at busy
  · exact unmarked

/-- By then nothing was refused. -/
theorem received (forwarded : Forwarded s) (busy : s.callback.event? ≠ none) :
    s.delivery.refused = false ∧ refused? s.met = none := by
  have unrefused : s.callback.isRefused = false := by
    cases callback : s.callback with
    | refused => simp [callback, Callback.event?] at busy
    | idle | building | sending => rfl
  have received : s.delivery.refused = false := by
    simp [State.delivery, forwarded.unmarked_of_event busy, unrefused]
  exact ⟨received, by simpa [received] using forwarded.reflects.refused⟩

theorem isGone_eq (forwarded : Forwarded s) : isGone s.met = !s.receiverPresent := by
  have present : s.receiverPresent = !isGone s.met := forwarded.reflects.present
  rw [present, Bool.not_not]

/-- What the capture thread does leaves the delivery as it is. -/
theorem of_capture (forwarded : Forwarded s) (stage : Stage) (calls : List Call)
    (result : Option (Except Failure Unit)) {more : List Notice}
    (apart : more.filter Notice.isDebug = []) :
    Forwarded { s with stage, calls, result, notices := s.notices ++ more } where
  runs := by simpa [State.delivery, apart] using forwarded.runs
  unmarked := forwarded.unmarked
  told := forwarded.told
  arrived := forwarded.arrived
  built := forwarded.built

theorem arrive (forwarded : Forwarded s) (e : Event) (free : s.callback = .idle)
    (unmarked : s.sinkClosed = false) :
    Forwarded { s with callback := .building e, arrived := s.arrived ++ [e] } where
  runs := by simpa [State.delivery, free, Callback.isRefused] using forwarded.runs
  unmarked := .inr unmarked
  told := nofun
  arrived := by simp [forwarded.arrived, free, Callback.event?]
  built := by simp [forwarded.built, free, Callback.report?]

theorem pass (forwarded : Forwarded s) (e : Event) (free : s.callback = .idle)
    (marked : s.sinkClosed = true) :
    Forwarded { s with arrived := s.arrived ++ [e], met := s.met ++ [.event e] } := by
  -- The mark is up only after a refusal, so the event changes no report.
  have closed : s.delivery.refused = true := by simp [State.delivery, marked]
  obtain ⟨report, first⟩ :=
    Option.isSome_iff_exists.1 (forwarded.reflects.refused.symm.trans closed)
  exact
    { runs := Delivery.meetAll_concat forwarded.runs (Delivery.meet_of_refused closed)
      unmarked := .inl free
      told := by simp [free]
      arrived := by simp [forwarded.arrived, free, Callback.event?, Incident.event?]
      built := by simp [forwarded.built, refused?_concat, first] }

theorem miss (forwarded : Forwarded s) {e : Event} {cause : Text}
    (begun : s.callback = .building e) (schema : e.schema = .error cause) :
    Forwarded
      { s with
        callback := .idle
        met := s.met ++ [.event e]
        notices := s.notices ++ [.schemaMissing e.eventId cause] } := by
  have received := (forwarded.received (by simp [begun, Callback.event?])).1
  exact
    { runs := by
        rw [Delivery.meetAll_concat forwarded.runs (Delivery.meet_of_missing received schema)]
        simp [State.delivery, begun, Callback.isRefused, Notice.isDebug, Notice.level]
      unmarked := .inl rfl
      told := nofun
      arrived := by simp [forwarded.arrived, begun, Callback.event?, Incident.event?]
      built := by
        simp [forwarded.built, begun, Callback.report?, refused?_concat, Incident.report?, schema] }

theorem build (forwarded : Forwarded s) {e : Event} {properties : List Property} {report : Report}
    (begun : s.callback = .building e) (schema : e.schema = .ok properties)
    (tells : e.report properties = .ok report) :
    Forwarded { s with callback := .sending e report, built := s.built ++ [report] } where
  runs := by simpa [State.delivery, begun, Callback.isRefused] using forwarded.runs
  unmarked := .inr (forwarded.unmarked_of_event (by simp [begun, Callback.event?]))
  told := by
    rintro _ _ ⟨⟩
    exact ⟨properties, schema, tells⟩
  arrived := by simp [forwarded.arrived, begun, Callback.event?]
  built := by simp [forwarded.built, begun, Callback.report?]

theorem send (forwarded : Forwarded s) {e : Event} {report : Report}
    (ready : s.callback = .sending e report) (receives : s.receiverPresent = true) :
    Forwarded
      { s with
        callback := .idle
        met := s.met ++ [.event e]
        sent := s.sent ++ [report] } := by
  obtain ⟨properties, schema, tells⟩ := forwarded.told e report ready
  obtain ⟨received, nothing⟩ := forwarded.received (by simp [ready, Callback.event?])
  have present : isGone s.met = false := by rw [forwarded.isGone_eq, receives]; rfl
  exact
    { runs := by
        rw [Delivery.meetAll_concat forwarded.runs (Delivery.meet_of_report received schema tells)]
        simp [State.delivery, Delivery.send, receives, ready, Callback.isRefused]
      unmarked := .inl rfl
      told := nofun
      arrived := by simp [forwarded.arrived, ready, Callback.event?, Incident.event?]
      built := by
        simp [forwarded.built, ready, Callback.report?, refused?_concat, nothing, present] }

theorem refuse (forwarded : Forwarded s) {e : Event} {report : Report}
    (ready : s.callback = .sending e report) (gone : s.receiverPresent = false) :
    Forwarded { s with callback := .refused, met := s.met ++ [.event e] } := by
  obtain ⟨properties, schema, tells⟩ := forwarded.told e report ready
  obtain ⟨received, nothing⟩ := forwarded.received (by simp [ready, Callback.event?])
  have left : isGone s.met = true := by rw [forwarded.isGone_eq, gone]; rfl
  exact
    { runs := by
        rw [Delivery.meetAll_concat forwarded.runs (Delivery.meet_of_report received schema tells)]
        simp [State.delivery, Delivery.send, gone, Callback.isRefused]
      unmarked := .inr (forwarded.unmarked_of_event (by simp [ready, Callback.event?]))
      told := nofun
      arrived := by simp [forwarded.arrived, ready, Callback.event?, Incident.event?]
      built := by
        simp [forwarded.built, ready, Callback.report?, refused?_concat, nothing, left,
          Incident.report?, schema, tells, Except.toOption] }

theorem mark (forwarded : Forwarded s) (refused : s.callback = .refused) :
    Forwarded { s with callback := .idle, sinkClosed := true } where
  runs := by simpa [State.delivery, refused, Callback.isRefused] using forwarded.runs
  unmarked := .inl rfl
  told := nofun
  arrived := by simp [forwarded.arrived, refused, Callback.event?]
  built := by simp [forwarded.built, refused, Callback.report?]

theorem lose (forwarded : Forwarded s) :
    Forwarded { s with receiverPresent := false, met := s.met ++ [.receiverLeaves] } where
  runs := Delivery.meetAll_concat forwarded.runs rfl
  unmarked := forwarded.unmarked
  told := forwarded.told
  arrived := by simp [forwarded.arrived, Incident.event?]
  built := by simp [forwarded.built, refused?_concat, Incident.report?]

theorem step (forwarded : Forwarded s) (action : Step faults s t) : Forwarded t := by
  cases action with
  | fail =>
    exact ⟨forwarded.runs, forwarded.unmarked, forwarded.told, forwarded.arrived, forwarded.built⟩
  | enable => exact forwarded.of_capture _ _ _ rfl
  | leave => exact forwarded.of_capture _ _ _ rfl
  | stop =>
    refine forwarded.of_capture _ _ _ ?_
    unfold stopNotices
    cases faults.stop <;> rfl
  | finish =>
    exact ⟨forwarded.runs, forwarded.unmarked, forwarded.told, forwarded.arrived, forwarded.built⟩
  | arrive e _ _ free unmarked => exact forwarded.arrive e free unmarked
  | pass e _ _ free marked => exact forwarded.pass e free marked
  | miss begun schema => exact forwarded.miss begun schema
  | build begun schema tells => exact forwarded.build begun schema tells
  | send ready receives => exact forwarded.send ready receives
  | refuse ready gone => exact forwarded.refuse ready gone
  | mark refused => exact forwarded.mark refused
  | lose => exact forwarded.lose
  | raise =>
    exact ⟨forwarded.runs, forwarded.unmarked, forwarded.told, forwarded.arrived, forwarded.built⟩

end Forwarded

/-- What the capture thread has logged by a stage, once the session is started. -/
def Stage.log (faults : Faults) : Stage → List Notice
  | .starting => []
  | .waiting => [.sessionEnabled sessionName providerName]
  | .closing => [.sessionEnabled sessionName providerName, .sessionClosing sessionName]
  | .ended | .returned => closingNotices faults.stop

/-- What it has called since the start by then. -/
def Stage.calls : Stage → List Call
  | .ended | .returned => [.stop]
  | _ => []

/-- What the capture thread has done by now. -/
structure Supervised (faults : Faults) (s : State) : Prop where
  started : s.stage = .starting ∨ s.stage = .returned ∨ faults.start = none
  unstarted : faults.start ≠ none → s.callback = .idle ∧ s.arrived = []
  reason : s.stage.remaining < Stage.waiting.remaining → faults.start = none →
    s.stopped = true ∨ s.sinkClosed = true
  calls : s.calls = [.provider bareProvider, .session sessionName]
    ++ if faults.start = none then s.stage.calls else []
  log : s.notices.filter (!·.isDebug)
    = if faults.start = none then s.stage.log faults else []
  result : s.result =
    if s.stage = .returned then
      some (match faults.start with
        | none => .ok ()
        | some cause => .error (startFailure cause))
    else none

namespace Supervised

theorem start (faults : Faults) : Supervised faults {} where
  started := .inl rfl
  unstarted _ := ⟨rfl, rfl⟩
  reason early := absurd early (by decide)
  calls := by simp [Stage.calls]
  log := by simp [Stage.log]
  result := rfl

theorem stage_of_result (supervised : Supervised faults s) {result : Except Failure Unit}
    (finished : s.result = some result) : s.stage = .returned := by
  by_contra running
  rw [supervised.result, if_neg running] at finished
  cases finished

/-- A callback is under way only in a session that was started. -/
theorem begun (supervised : Supervised faults s) (busy : s.callback ≠ .idle) :
    faults.start = none := by
  by_cases fault : faults.start = none
  · exact fault
  · exact absurd (supervised.unstarted fault).1 busy

theorem step (supervised : Supervised faults s) (action : Step faults s t) :
    Supervised faults t := by
  have begun := supervised.begun
  obtain ⟨started, unstarted, reason, calls, log, result⟩ := supervised
  cases action with
  | fail stage fault =>
    exact
      { started := .inr (.inl rfl)
        unstarted := unstarted
        reason := by simp [fault]
        calls := by simp [calls, fault]
        log := by simpa [fault] using log
        result := by simp [fault] }
  | enable stage enabled =>
    exact
      { started := .inr (.inr enabled)
        unstarted := unstarted
        reason := fun early => absurd early (Nat.lt_irrefl _)
        calls := by simp [calls, stage, Stage.calls]
        log := by
          rw [List.filter_append, log, stage, if_pos enabled, if_pos enabled]
          rfl
        result := by simp [result, stage] }
  | leave stage seen =>
    have enabled : faults.start = none := by simpa [stage] using started
    exact
      { started := .inr (.inr enabled)
        unstarted := unstarted
        reason := fun _ _ => seen
        calls := by simp [calls, stage, Stage.calls]
        log := by
          rw [List.filter_append, log, stage, if_pos enabled, if_pos enabled]
          rfl
        result := by simp [result, stage] }
  | stop stage =>
    have enabled : faults.start = none := by simpa [stage] using started
    exact
      { started := .inr (.inr enabled)
        unstarted := unstarted
        reason := fun _ => reason (by simp [stage, Stage.remaining])
        calls := by simp [calls, stage, enabled, Stage.calls]
        log := by
          have apart : (stopNotices faults).filter (!·.isDebug) = stopNotices faults := by
            unfold stopNotices
            cases faults.stop <;> rfl
          rw [List.filter_append, log, apart, stage, if_pos enabled, if_pos enabled]
          rfl
        result := by simp [result, stage] }
  | finish stage =>
    have enabled : faults.start = none := by simpa [stage] using started
    exact
      { started := .inr (.inr enabled)
        unstarted := unstarted
        reason := fun _ => reason (by simp [stage, Stage.remaining])
        calls := by simp [calls, stage, enabled, Stage.calls]
        log := by rw [log, stage]; rfl
        result := by simp [enabled] }
  | arrive e enabled | pass e enabled =>
    exact ⟨started, fun fault => absurd enabled fault, reason, calls, log, result⟩
  | miss busy =>
    have enabled := begun (by simp [busy])
    refine ⟨started, fun fault => absurd enabled fault, reason, calls, ?_, result⟩
    rw [List.filter_append, log]
    exact List.append_nil _
  | build busy | send busy | refuse busy =>
    have enabled := begun (by simp [busy])
    exact ⟨started, fun fault => absurd enabled fault, reason, calls, log, result⟩
  | mark refused =>
    have enabled := begun (by simp [refused])
    exact ⟨started, fun fault => absurd enabled fault, fun _ _ => .inr rfl, calls, log, result⟩
  | lose => exact ⟨started, unstarted, reason, calls, log, result⟩
  | raise => exact ⟨started, unstarted, fun _ _ => .inl rfl, calls, log, result⟩

end Supervised

theorem Reaches.forwarded (reached : Reaches faults {} s) : Forwarded s := by
  induction reached with
  | refl => exact .start
  | step _ action ih => exact ih.step action

theorem Reaches.supervised (reached : Reaches faults {} s) : Supervised faults s := by
  induction reached with
  | refl => exact .start faults
  | step _ action ih => exact ih.step action

end Interleaving
end Trace
end QueryWatch
