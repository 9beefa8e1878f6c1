import QueryWatch.Proofs.SessionThreads

/-!
# Forwarding by a trace session

However the threads of a session interleave, it sends the reports that the sequence of settled
incidents prescribes. What was sent, built and noticed by the time of a refusal stays as it is.
No thread gets stuck: the callback has a step unless it is idle or its time stamp is out of range,
and the capture thread has one once there is a reason to end.

The sequential run is one of the interleavings, in which the callback settles every event before
the call that starts the session has returned. Conversely each interleaving that has returned
shows the same results as the sequential run over the incidents it has met.
-/
namespace QueryWatch.Trace.Interleaving

variable {faults : Faults} {s t : State}

theorem Reaches.trans {u : State} (before : Reaches faults s t) (after : Reaches faults t u) :
    Reaches faults s u := by
  induction after with
  | refl => exact before
  | step _ action ih => exact ih.step action

/-- Incidents are settled one after another and stay so. -/
theorem Step.met_append (action : Step faults s t) : ∃ more, t.met = s.met ++ more := by
  cases action with
  | fail | enable | leave | stop | finish | arrive | build | mark | raise =>
    exact ⟨[], (List.append_nil _).symm⟩
  | pass | miss | send | refuse | lose => exact ⟨_, rfl⟩

theorem Reaches.met_append (reached : Reaches faults s t) : ∃ more, t.met = s.met ++ more := by
  induction reached with
  | refl => exact ⟨[], (List.append_nil _).symm⟩
  | step _ action ih =>
    obtain ⟨more, before⟩ := ih
    obtain ⟨last, after⟩ := action.met_append
    exact ⟨more ++ last, by rw [after, before, List.append_assoc]⟩

/-- After a report was refused the callback has none before it. -/
theorem Forwarded.report?_eq_none (forwarded : Forwarded s) (refused : refused? s.met ≠ none) :
    s.callback.report? = none := by
  cases busy : s.callback with
  | sending e report =>
    have nothing := (forwarded.received (by simp [busy, Callback.event?])).2
    exact absurd nothing refused
  | idle | building | refused => rfl

/-- A refused report is the last that was built. -/
theorem Forwarded.frozen (forwarded : Forwarded s) (later : Forwarded t)
    (refused : refused? s.met ≠ none) {more : List Incident} (met : t.met = s.met ++ more) :
    t.sent = s.sent ∧ t.built = s.built ∧
      t.notices.filter Notice.isDebug = s.notices.filter Notice.isDebug := by
  -- Sent reports and debug notices depend on the incidents before the refusal only.
  obtain ⟨report, first⟩ := Option.ne_none_iff_exists'.1 refused
  obtain ⟨still, kept⟩ := untilRefused_append first more
  rw [← met] at still kept
  have sent : t.sent = s.sent := by
    calc t.sent = delivered t.met := later.reflects.sent
      _ = delivered s.met := by rw [delivered, kept, delivered]
      _ = s.sent := forwarded.reflects.sent.symm
  have notices : t.notices.filter Notice.isDebug = s.notices.filter Notice.isDebug := by
    calc t.notices.filter Notice.isDebug = missed t.met := later.reflects.notices
      _ = missed s.met := by rw [missed, kept, missed]
      _ = s.notices.filter Notice.isDebug := forwarded.reflects.notices.symm
  refine ⟨sent, ?_, notices⟩
  rw [later.built, forwarded.built, sent, still, first, forwarded.report?_eq_none refused,
    later.report?_eq_none (by simp [still])]

/-- Once the signal or the mark is up the capture thread goes on until it has returned. -/
theorem Supervised.can_act (supervised : Supervised faults s)
    (reason : s.stopped = true ∨ s.sinkClosed = true) (running : s.result = none) :
    ∃ t, Step faults s t ∧ t.stage.remaining < s.stage.remaining := by
  cases stage : s.stage with
  | starting =>
    cases fault : faults.start with
    | none => exact ⟨_, .enable stage fault, Nat.lt_succ_self _⟩
    | some cause => exact ⟨_, .fail stage fault, Nat.succ_pos _⟩
  | waiting => exact ⟨_, .leave stage reason, Nat.lt_succ_self _⟩
  | closing => exact ⟨_, .stop stage, Nat.lt_succ_self _⟩
  | ended => exact ⟨_, .finish stage, Nat.lt_succ_self _⟩
  | returned =>
    rw [supervised.result, if_pos stage] at running
    cases running

/-- A callback that has an event always goes on, as long as its time stamp is in range. -/
theorem callback_can_act (busy : s.callback ≠ .idle)
    (in_range : ∀ e properties, s.callback = .building e → e.schema = .ok properties →
      ∃ report, e.report properties = .ok report) :
    ∃ t, Step faults s t ∧ t.callback.remaining < s.callback.remaining := by
  cases callback : s.callback with
  | idle => exact absurd callback busy
  | building e =>
    cases schema : e.schema with
    | error cause => exact ⟨_, .miss callback schema, Nat.succ_pos _⟩
    | ok properties =>
      obtain ⟨report, told⟩ := in_range e properties callback schema
      exact ⟨_, .build callback schema told, Nat.lt_succ_self _⟩
  | sending e report =>
    cases receives : s.receiverPresent with
    | true => exact ⟨_, .send callback receives, Nat.succ_pos _⟩
    | false => exact ⟨_, .refuse callback receives, Nat.lt_succ_self _⟩
  | refused => exact ⟨_, .mark callback, Nat.lt_succ_self _⟩

theorem Step.remaining_le (action : Step faults s t) :
    t.stage.remaining ≤ s.stage.remaining := by
  cases action with
  | fail stage | enable stage | leave stage | stop stage | finish stage =>
    simp [stage, Stage.remaining]
  | arrive | pass | miss | build | send | refuse | mark | lose | raise => exact Nat.le_refl _

/-- What holds of a run that has returned from a session that was started. -/
structure Returned (faults : Faults) (s : State) (result : Except Failure Unit) : Prop where
  ok : result = .ok ()
  calls : s.calls = [.provider bareProvider, .session sessionName, .stop]
  reason : s.stopped = true ∨ s.sinkClosed = true
  realised : ∃ finished, run ⟨s.met, faults.start, faults.stop⟩ = .ok finished ∧
    finished.result = result ∧ finished.sent = s.sent ∧ finished.calls = s.calls ∧
    finished.notices.Perm s.notices

theorem Supervised.returned (supervised : Supervised faults s) (forwarded : Forwarded s)
    (enabled : faults.start = none) {result : Except Failure Unit}
    (finished : s.result = some result) : Returned faults s result := by
  have stage := supervised.stage_of_result finished
  have ok : result = .ok () := by
    rw [supervised.result, if_pos stage, enabled] at finished
    exact (Option.some.inj finished).symm
  have calls := supervised.calls
  have log := supervised.log
  rw [if_pos enabled, stage] at calls log
  refine ⟨ok, calls, supervised.reason (by rw [stage]; decide) enabled, ?_⟩
  refine ⟨⟨.ok (), s.delivery.sent, _, s.delivery.notices ++ closingNotices faults.stop⟩, ?_,
    ok.symm, rfl, calls.symm, ?_⟩
  · simp only [run, enabled, forwarded.runs]
    rfl
  · have closing : closingNotices faults.stop = s.notices.filter (!·.isDebug) := log.symm
    rw [closing]
    exact List.filter_append_perm Notice.isDebug s.notices

/-- In a session that is started the reports sent are those of the events with a schema, in
order, up to the first that nobody receives. That one is built and nothing after it, whatever
arrives. An event without a schema leaves a notice and affects no report. A callback goes on to
its end. A run returns after it has stopped the session once, and it comes nearer to that once
the signal or the mark of a closed sink is up. -/
theorem session_forwards_until_refused (enabled : faults.start = none)
    (reached : Reaches faults {} s) :
    (s.arrived = s.met.filterMap Incident.event? ++ s.callback.event?.toList ∧
        s.sent = delivered s.met ∧
        s.built = s.sent ++ (refused? s.met).toList ++ s.callback.report?.toList) ∧
      (s.notices.filter Notice.isDebug = missed s.met ∧
        delivered (withoutMissing s.met) = s.sent ∧
        refused? (withoutMissing s.met) = refused? s.met) ∧
      (refused? s.met ≠ none → ∀ t, Reaches faults s t →
        t.sent = s.sent ∧ t.built = s.built ∧
          t.notices.filter Notice.isDebug = s.notices.filter Notice.isDebug) ∧
      (s.callback ≠ .idle →
        (∀ e properties, s.callback = .building e → e.schema = .ok properties →
          ∃ report, e.report properties = .ok report) →
        ∃ t, Step faults s t ∧ t.callback.remaining < s.callback.remaining) ∧
      (∀ result, s.result = some result → Returned faults s result) ∧
      (s.stopped = true ∨ s.sinkClosed = true → s.result = none →
        ∃ t, Step faults s t ∧ t.stage.remaining < s.stage.remaining) ∧
      ∀ t, Step faults s t → t.stage.remaining ≤ s.stage.remaining := by
  have forwarded := reached.forwarded
  have supervised := reached.supervised
  have sent : s.sent = delivered s.met := forwarded.reflects.sent
  obtain ⟨same_sent, same_refused⟩ := reports_withoutMissing s.met
  refine ⟨⟨forwarded.arrived, sent, forwarded.built⟩,
    ⟨forwarded.reflects.notices, same_sent.trans sent.symm, same_refused⟩,
    fun refused t continued => ?_, callback_can_act,
    fun _ => supervised.returned forwarded enabled, supervised.can_act,
    fun _ => Step.remaining_le⟩
  obtain ⟨more, met⟩ := continued.met_append
  exact forwarded.frozen (reached.trans continued).forwarded refused met

/-- An event with the given schema. -/
def sampleEvent (schema : Except Text (List Property)) : Event where
  eventId := 3006
  processId := 812
  threadId := 813
  fileTime := 133538402050000000
  clock := ⟨0, 0⟩
  schema := schema

def sampleReport (properties : List Property) : Report where
  provider := providerName
  eventId := 3006
  processId := 812
  threadId := 813
  time := ⟨1709366605, 0⟩
  fields := Property.fields properties

theorem sampleEvent_report (schema : Except Text (List Property)) (properties : List Property) :
    (sampleEvent schema).report properties = .ok (sampleReport properties) := by
  have clock : Instant.ofFileTime? (sampleEvent schema).clock (sampleEvent schema).fileTime
      = some ⟨1709366605, 0⟩ := by
    show Instant.ofFileTime? ⟨0, 0⟩ 133538402050000000 = some ⟨1709366605, 0⟩
    decide +kernel
  rw [Event.report, clock]
  rfl

def schemalessEvent : Event :=
  sampleEvent (.error "gone".toList)

def plainEvent : Event :=
  sampleEvent (.ok [])

/-- An event without a schema, then two with one. The receiver leaves between the two, and the
mark is not yet up. -/
def refusing : State where
  callback := .refused
  receiverPresent := false
  arrived := [schemalessEvent, plainEvent, plainEvent]
  met := [.event schemalessEvent, .event plainEvent, .receiverLeaves, .event plainEvent]
  built := [sampleReport [], sampleReport []]
  sent := [sampleReport []]
  notices := [.schemaMissing 3006 "gone".toList]

/-- Another event arrives before the session is stopped. -/
theorem session_forwards_until_refused_of_leaving :
    let faults : Faults := ⟨none, some "busy".toList⟩
    ∃ s, faults.start = none ∧ Reaches faults {} refusing ∧ refused? refusing.met ≠ none ∧
      Reaches faults refusing s ∧ s.met = refusing.met ++ [.event plainEvent] ∧
      s.sent = [sampleReport []] ∧ s.built = [sampleReport [], sampleReport []] ∧
      s.result = some (.ok ()) ∧ Returned faults s (.ok ()) ∧
      ∃ t, Step faults refusing t ∧ t.callback.remaining < refusing.callback.remaining := by
  intro faults
  have told : plainEvent.report [] = .ok (sampleReport []) := sampleEvent_report _ []
  have arrived : Reaches faults {} _ :=
    Reaches.refl.step (.arrive schemalessEvent rfl rfl rfl rfl)
  have missed := arrived.step (.miss rfl rfl)
  have built := (missed.step (.arrive plainEvent rfl rfl rfl rfl)).step (.build rfl rfl told)
  have lost := (built.step (.send rfl rfl)).step .lose
  have again := (lost.step (.arrive plainEvent rfl rfl rfl rfl)).step (.build rfl rfl told)
  have refused : Reaches faults {} refusing := again.step (.refuse rfl rfl)
  have marked : Reaches faults refusing _ := Reaches.refl.step (.mark rfl)
  have passed := marked.step (.pass plainEvent rfl rfl rfl rfl)
  have closing := (passed.step (.enable rfl rfl)).step (.leave rfl (.inr rfl))
  have ended := (closing.step (.stop rfl)).step (.finish rfl)
  have first : refused? refusing.met ≠ none :=
    Option.ne_none_iff_isSome.2 refused.forwarded.reflects.refused.symm
  obtain ⟨-, -, frozen, goes_on, -⟩ := session_forwards_until_refused rfl refused
  obtain ⟨sent, built, -⟩ := frozen first _ ended
  obtain ⟨-, -, -, -, returned, -⟩ := session_forwards_until_refused rfl (refused.trans ended)
  exact ⟨_, rfl, refused, first, ended, rfl, sent, built, rfl, returned _ rfl, goes_on nofun nofun⟩

/-- A state between two events of a session whose start has not yet returned. -/
structure Rests (s : State) (state : Delivery) : Prop where
  stage : s.stage = .starting
  callback : s.callback = .idle
  calls : s.calls = [.provider bareProvider, .session sessionName]
  delivery : state = ⟨s.sent, s.receiverPresent, s.sinkClosed, s.notices⟩

namespace Rests

variable {state next : Delivery}

theorem send (rests : Rests s state) {e : Event} {properties : List Property} {report : Report}
    (enabled : faults.start = none) (unmarked : s.sinkClosed = false)
    (schema : e.schema = .ok properties) (told : e.report properties = .ok report) :
    ∃ t, Reaches faults s t ∧ Rests t (state.send report) ∧ t.met = s.met ++ [.event e] := by
  obtain ⟨stage, free, calls, rfl⟩ := rests
  have live : s.stage.isLive = true := by rw [stage]; rfl
  have arrived := Reaches.refl.step (Step.arrive e enabled live free unmarked)
  have built := arrived.step (.build rfl schema told)
  cases receives : s.receiverPresent with
  | true =>
    refine ⟨_, built.step (.send rfl receives), ⟨stage, rfl, calls, ?_⟩, rfl⟩
    simp [Delivery.send, receives]
  | false =>
    have refused := built.step (.refuse rfl receives)
    refine ⟨_, refused.step (.mark rfl), ⟨stage, rfl, calls, ?_⟩, rfl⟩
    simp [Delivery.send, receives]

theorem event (rests : Rests s state) {e : Event} (enabled : faults.start = none)
    (goes_on : state.meet (.event e) = .ok next) :
    ∃ t, Reaches faults s t ∧ Rests t next ∧ t.met = s.met ++ [.event e] := by
  have live : s.stage.isLive = true := by rw [rests.stage]; rfl
  have same : state.refused = s.sinkClosed := by rw [rests.delivery]
  cases marked : s.sinkClosed with
  | true =>
    rw [Delivery.meet_of_refused (same.trans marked)] at goes_on
    obtain rfl := Except.ok.inj goes_on
    exact ⟨_, Reaches.refl.step (.pass e enabled live rests.callback marked),
      ⟨rests.stage, rests.callback, rests.calls, rests.delivery⟩, rfl⟩
  | false =>
    have received : state.refused = false := same.trans marked
    cases schema : e.schema with
    | error cause =>
      rw [Delivery.meet_of_missing received schema, rests.delivery] at goes_on
      have arrived := Reaches.refl.step (Step.arrive e enabled live rests.callback marked)
      exact ⟨_, arrived.step (.miss rfl schema),
        ⟨rests.stage, rfl, rests.calls, (Except.ok.inj goes_on).symm⟩, rfl⟩
    | ok properties =>
      cases told : e.report properties with
      | error overflow => simp [Delivery.meet, received, schema, told] at goes_on
      | ok report =>
        rw [Delivery.meet_of_report received schema told] at goes_on
        obtain rfl := Except.ok.inj goes_on
        exact rests.send enabled marked schema told

theorem meet (rests : Rests s state) {incident : Incident} (enabled : faults.start = none)
    (goes_on : state.meet incident = .ok next) :
    ∃ t, Reaches faults s t ∧ Rests t next ∧ t.met = s.met ++ [incident] := by
  cases incident with
  | receiverLeaves =>
    rw [rests.delivery] at goes_on
    exact ⟨_, Reaches.refl.step .lose,
      ⟨rests.stage, rests.callback, rests.calls, (Except.ok.inj goes_on).symm⟩, rfl⟩
  | event e => exact rests.event enabled goes_on

theorem meetAll (rests : Rests s state) {incidents : List Incident}
    (enabled : faults.start = none) (goes_on : state.meetAll incidents = .ok next) :
    ∃ t, Reaches faults s t ∧ Rests t next ∧ t.met = s.met ++ incidents := by
  induction incidents generalizing s state with
  | nil =>
    obtain rfl := Except.ok.inj goes_on
    exact ⟨s, .refl, rests, (List.append_nil _).symm⟩
  | cons incident rest ih =>
    rw [Delivery.meetAll] at goes_on
    split at goes_on
    next => cases goes_on
    next between step =>
      obtain ⟨middle, first, rested, met⟩ := rests.meet enabled step
      obtain ⟨last, later, ended, all⟩ := ih rested goes_on
      exact ⟨last, first.trans later, ended, by rw [all, met, List.append_assoc]; rfl⟩

/-- From rest the capture thread runs to its end once the signal is up. -/
theorem finish (rests : Rests s state) (enabled : faults.start = none) :
    ∃ t, Reaches faults s t ∧ t.met = s.met ∧ t.result = some (.ok ()) ∧ t.sent = state.sent ∧
      t.calls = [.provider bareProvider, .session sessionName, .stop] ∧
      t.notices = state.notices ++ closingNotices faults.stop := by
  obtain ⟨stage, free, calls, rfl⟩ := rests
  have waiting := Reaches.refl.step (Step.enable stage enabled)
  have closing := (waiting.step .raise).step (.leave rfl (.inl rfl))
  refine ⟨_, (closing.step (.stop rfl)).step (.finish rfl), rfl, rfl, rfl, ?_, ?_⟩
  · simp [calls]
  · simp [closingNotices, stopNotices]

end Rests

/-- The sequential run is an interleaving. -/
theorem run_reached {script : Script} {finished : Finished} (ran : run script = .ok finished) :
    ∃ s, Reaches ⟨script.startFault, script.stopFault⟩ {} s ∧
      s.result = some finished.result ∧ s.sent = finished.sent ∧ s.calls = finished.calls ∧
      s.notices = finished.notices := by
  obtain ⟨incidents, startFault, stopFault⟩ := script
  cases startFault with
  | some cause =>
    obtain rfl := Except.ok.inj ran
    exact ⟨_, Reaches.refl.step (.fail rfl rfl), rfl, rfl, rfl, rfl⟩
  | none =>
    simp only [run] at ran
    split at ran
    next => cases ran
    next delivery goes_on =>
      obtain rfl := Except.ok.inj ran
      have begun : Rests {} {} := ⟨rfl, rfl, rfl, rfl⟩
      have enabled : (Faults.mk none stopFault).start = none := rfl
      obtain ⟨t, before, rested, -⟩ := begun.meetAll enabled goes_on
      obtain ⟨u, after, -, result, sent, calls, notices⟩ := rested.finish enabled
      exact ⟨u, before.trans after, result, sent, calls, notices⟩

end QueryWatch.Trace.Interleaving
