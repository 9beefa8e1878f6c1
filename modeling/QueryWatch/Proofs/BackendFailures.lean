import QueryWatch.Proofs.SessionForwarding
import QueryWatch.Proofs.SetupFailures

/-!
# Failures of the backends

Once a backend is set up, its run ends without a failure, whatever it meets. For the probes this
is a fact about every script, for the trace session about every interleaving of its threads that
has returned, among them the sequential run.
-/
namespace QueryWatch

namespace Trace
open Interleaving

/-- How and when a run of a trace session fails. -/
structure FailsAtStart (faults : Faults) (result : Except Failure Unit) (sent : List Report)
    (notices : List Notice) : Prop where
  error : ∀ failure, result = .error failure ↔
    ∃ cause, faults.start = some cause ∧
      failure = .trace ("could not start session FafDnsMonitor: ".toList ++ cause)
  ok : result = .ok () ↔ faults.start = none
  silent : ∀ failure, result = .error failure → sent = []
  warned : notices.filter (·.level == .warn)
    = if faults.start = none then
        (faults.stop.map (Notice.sessionStopFailed "FafDnsMonitor".toList)).toList
      else []

theorem startFailure_eq (cause : Text) :
    startFailure cause = .trace ("could not start session FafDnsMonitor: ".toList ++ cause) := by
  have opening : "could not start session FafDnsMonitor: ".toList
      = "could not start session ".toList ++ sessionName ++ ": ".toList := by decide +kernel
  rw [opening]
  rfl

theorem delivered_of_no_event {met : List Incident} (silent : met.filterMap Incident.event? = []) :
    delivered met = [] := by
  rw [delivered_eq, List.filterMap_eq_nil_iff]
  intro incident member
  have leaving : incident.event? = none :=
    List.filterMap_eq_nil_iff.1 silent incident (List.takeWhile_subset _ member)
  cases incident with
  | receiverLeaves => rfl
  | event e => cases leaving

/-- The capture thread alone warns. -/
theorem warnings_eq (notices : List Notice) :
    notices.filter (·.level == .warn)
      = (notices.filter (!·.isDebug)).filter (·.level == .warn) := by
  rw [List.filter_filter]
  congr 1
  funext notice
  cases level : notice.level <;> simp [Notice.isDebug, level]

theorem Interleaving.Reaches.failsAtStart {faults : Faults} {s : State}
    (reached : Reaches faults {} s) {result : Except Failure Unit}
    (returned : s.result = some result) : FailsAtStart faults result s.sent s.notices := by
  have forwarded := reached.forwarded
  have supervised := reached.supervised
  have stage : s.stage = .returned := supervised.stage_of_result returned
  have decided := supervised.result
  rw [returned, if_pos stage, Option.some.injEq] at decided
  have log := supervised.log
  rw [stage] at log
  cases start : faults.start with
  | none =>
    rw [start] at decided log
    exact
      { error := by simp [decided, start]
        ok := by simp [decided, start]
        silent := by simp [decided]
        warned := by
          rw [warnings_eq, log, if_pos rfl, if_pos start]
          unfold Stage.log closingNotices
          cases faults.stop <;> rfl }
  | some cause =>
    have arrived : s.arrived = [] := (supervised.unstarted (by simp [start])).2
    have silent : s.met.filterMap Incident.event? = [] :=
      (List.append_eq_nil_iff.1 (forwarded.arrived.symm.trans arrived)).1
    rw [start] at decided log
    exact
      { error := by simp [decided, start, startFailure_eq, eq_comm]
        ok := by simp [decided, start]
        silent := by
          intro _ _
          calc s.sent = delivered s.met := forwarded.reflects.sent
            _ = [] := delivered_of_no_event silent
        warned := by
          rw [warnings_eq, log, start]
          rfl }

/-- Every time stamp is in the range of clock arithmetic. -/
def Script.InRange (script : Script) : Prop :=
  ∀ e properties, .event e ∈ script.incidents → e.schema = .ok properties →
    ∃ report, e.report properties = .ok report

theorem Delivery.exists_meetAll {incidents : List Incident} (state : Delivery)
    (in_range : ∀ e properties, .event e ∈ incidents → e.schema = .ok properties →
      ∃ report, e.report properties = .ok report) :
    ∃ last, state.meetAll incidents = .ok last := by
  induction incidents generalizing state with
  | nil => exact ⟨state, rfl⟩
  | cons incident rest ih =>
    have goes_on : ∃ next, state.meet incident = .ok next := by
      cases incident with
      | receiverLeaves => exact ⟨_, rfl⟩
      | event e =>
        by_cases refused : state.refused = true
        · exact ⟨_, meet_of_refused refused⟩
        · have received := Bool.not_eq_true _ ▸ refused
          cases schema : e.schema with
          | error cause => exact ⟨_, meet_of_missing received schema⟩
          | ok properties =>
            obtain ⟨report, told⟩ := in_range e properties List.mem_cons_self schema
            exact ⟨_, meet_of_report received schema told⟩
    obtain ⟨next, step⟩ := goes_on
    rw [meetAll, step]
    apply ih
    intro e properties member
    exact in_range e properties (List.mem_cons_of_mem _ member)

theorem Script.InRange.run_finishes {script : Script} (in_range : script.InRange) :
    ∃ finished, run script = .ok finished ∧
      FailsAtStart ⟨script.startFault, script.stopFault⟩ finished.result finished.sent
        finished.notices := by
  have ran : ∃ finished, run script = .ok finished := by
    unfold run
    cases script.startFault with
    | some cause => exact ⟨_, rfl⟩
    | none =>
      obtain ⟨last, met⟩ := Delivery.exists_meetAll {} in_range
      rw [met]
      exact ⟨_, rfl⟩
  obtain ⟨finished, ran⟩ := ran
  obtain ⟨s, reached, returned, sent, -, notices⟩ := run_reached ran
  refine ⟨finished, ran, ?_⟩
  rw [← sent, ← notices]
  exact reached.failsAtStart returned

end Trace

/-- A run of the probes fails just if a step of the setup does, in the way of the first that
does; all that the host lacks is told at once. A run of a trace session fails just if the session
cannot be started. A run that fails has sent nothing. All other trouble is worth a warning only,
and changes nothing else. -/
theorem backends_fail_only_in_setup :
    (∀ script : Probe.Script, script.FailsInSetup) ∧
      (∀ (faults : Trace.Interleaving.Faults) (s : Trace.Interleaving.State)
          (result : Except Failure Unit),
        Trace.Interleaving.Reaches faults {} s → s.result = some result →
          Trace.FailsAtStart faults result s.sent s.notices) ∧
      ∀ script : Trace.Script, script.InRange →
        ∃ finished, Trace.run script = .ok finished ∧
          Trace.FailsAtStart ⟨script.startFault, script.stopFault⟩ finished.result finished.sent
            finished.notices :=
  ⟨Probe.Script.failsInSetup, fun _ _ _ reached => reached.failsAtStart,
    fun _ in_range => in_range.run_finishes⟩

/-- The kernel is one version too old and has no type information, which comes before the missing
object. Another kernel does not tell its version and keeps its memory limit, and the run goes on as
on a quiet host. One session cannot be started, another does not stop. -/
theorem backends_fail_only_in_setup_of_old_kernel :
    let lacking : Probe.Script :=
      { host := ⟨false, 0, .ok (5, 3), none⟩
        object := .file "o".toList (.error .notFound)
        library := ⟨none, none, [], none, none, [], []⟩
        polls := []
        stopped := false }
    let unclear : Probe.Script :=
      { host := ⟨true, 0, .error "no release".toList, some "EPERM".toList⟩
        object := .embedded [1]
        library := ⟨none, none, [], none, none, [Probe.udpPoint.program, Probe.tcpPoint.program],
          [Probe.ringName]⟩
        polls := []
        stopped := false }
    let quiet : Probe.Host := ⟨true, 0, .ok (5, 10), none⟩
    let warnings := (Probe.run unclear).ledger.notices.filter (·.level == .warn)
    let unstoppable : Trace.Script :=
      ⟨[.event (Trace.Interleaving.sampleEvent (.ok []))], none, some "busy".toList⟩
    (Probe.Lacks lacking.host (.kernel 5 3) ∧
        (Probe.run lacking).result = .error (.unmet [.typeInformation, .kernel 5 3]) ∧
        (Probe.run lacking).result.mapError Probe.SetupFault.failure = .error (.requirements
          ("BTF support not available - /sys/kernel/btf/vmlinux does not exist\n".toList
            ++ "Your kernel was not compiled with CONFIG_DEBUG_INFO_BTF=y\n".toList
            ++ "Kernel 5.3 found, but Linux 5.4+ required for CO-RE support".toList)) ∧
        (Probe.run lacking).sent = []) ∧
      ((Probe.run unclear).result = (Probe.run { unclear with host := quiet }).result ∧
        (Probe.run unclear).result = .ok () ∧
        warnings = [.kernelVersionUnknown "no release".toList, .memoryLimitKept "EPERM".toList] ∧
        warnings.map Notice.message =
          ["Could not detect kernel version: no release".toList,
           "could not remove memlock limit: EPERM".toList]) ∧
      (∃ s, Trace.Interleaving.Reaches ⟨some "denied".toList, none⟩ {} s ∧
        s.result
          = some (.error (.trace "could not start session FafDnsMonitor: denied".toList)) ∧
        s.sent = []) ∧
      unstoppable.InRange ∧
      ∃ finished, Trace.run unstoppable = .ok finished ∧ finished.result = .ok () ∧
        finished.notices.filter (·.level == .warn)
          = [.sessionStopFailed "FafDnsMonitor".toList "busy".toList] ∧
        (Notice.sessionStopFailed "FafDnsMonitor".toList "busy".toList).message
          = "ETW session FafDnsMonitor did not stop cleanly: busy".toList := by
  intro lacking unclear quiet warnings unstoppable
  obtain ⟨setup, session, sequential⟩ := backends_fail_only_in_setup
  refine ⟨?_, ?_, ?_, ?_⟩
  · have old : Probe.Lacks lacking.host (.kernel 5 3) := by
      apply Probe.Lacks.kernel rfl
      exact Prod.Lex.right 5 (by decide)
    have failed : (Probe.run lacking).result = .error (.unmet [.typeInformation, .kernel 5 3]) := by
      apply ((setup lacking).error _).2
      exact ⟨[], .requirements, _, rfl, nofun, .requirements old⟩
    refine ⟨old, failed, ?_, ((setup lacking).silent _ failed).1⟩
    rw [failed]
    exact congrArg (Except.error ∘ Failure.requirements) (by decide +kernel)
  · obtain ⟨finished, ran⟩ := (setup unclear).warned
    have met (host : Probe.Host) (nothing : host.unmet = []) (lack : Probe.Requirement) :
        ¬Probe.Lacks host lack := by
      intro lacks
      have listed := ((setup { unclear with host := host }).unmet lack).2 lacks
      exact List.not_mem_nil (nothing ▸ listed)
    obtain ⟨_, here, -⟩ := ran unclear.host (met _ rfl)
    obtain ⟨_, there, -⟩ := ran quiet (met _ rfl)
    have alike := (congrArg Probe.Finished.result here).trans
      (congrArg Probe.Finished.result there).symm
    exact ⟨alike, rfl, by decide +kernel, by decide +kernel⟩
  · have denied : Trace.Interleaving.Reaches ⟨some "denied".toList, none⟩ {} _ :=
      .step .refl (.fail rfl rfl)
    have fails := session _ _ _ denied rfl
    have told := (fails.error _).2 ⟨_, rfl, rfl⟩
    have words : "could not start session FafDnsMonitor: ".toList ++ "denied".toList
        = "could not start session FafDnsMonitor: denied".toList := by decide +kernel
    refine ⟨_, denied, ?_, fails.silent _ told⟩
    rw [← words]
    exact congrArg some told
  · have in_range : unstoppable.InRange := by
      intro e properties member schema
      obtain rfl : e = Trace.Interleaving.sampleEvent (.ok []) := by
        simpa [unstoppable] using member
      exact ⟨_, Trace.Interleaving.sampleEvent_report _ properties⟩
    obtain ⟨finished, ran, fails⟩ := sequential unstoppable in_range
    exact ⟨in_range, finished, ran, fails.ok.2 rfl, fails.warned, by decide +kernel⟩

end QueryWatch
