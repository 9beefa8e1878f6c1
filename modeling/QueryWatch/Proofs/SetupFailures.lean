import QueryWatch.Probe
import QueryWatch.Proofs.LineFeeds

/-!
# Failures of the setup

A run of the probes fails in no way but by a step of the setup, and the first step that fails
decides how. Which steps fail can be read off the script one by one, each for itself; what the
polls would bring plays no part. All that the host lacks counts as one failure. The lines of its
text are those that tell of a lack, and no others.

A host that lacks nothing may still be worth a warning: its kernel is dated, or has no version
that can be read, or the memory limit stays as it is. The warnings come first among the notices,
and nothing else in the run depends on the host.
-/
namespace QueryWatch.Probe

/-- What a host lacks. -/
inductive Lacks (host : Host) : Requirement → Prop
  | typeInformation (absent : host.hasTypeInformation = false) : Lacks host .typeInformation
  | privileges (unprivileged : host.effectiveUser ≠ 0) : Lacks host .privileges
  | kernel {major minor : Nat} (version : host.version = .ok (major, minor))
      (older : Prod.Lex (· < ·) (· < ·) (major, minor) (5, 4)) :
      Lacks host (.kernel major minor)

theorem precedes_iff {a b : Nat × Nat} : precedes a b = true ↔ Prod.Lex (· < ·) (· < ·) a b := by
  simp [precedes, Prod.lex_def]

theorem mem_unmet_iff {host : Host} {requirement : Requirement} :
    requirement ∈ host.unmet ↔ Lacks host requirement := by
  constructor
  · intro member
    simp only [Host.unmet, List.mem_append] at member
    rcases member with (lack | lack) | lack
    · split at lack
      next => cases lack
      next absent =>
        obtain rfl := List.mem_singleton.1 lack
        exact .typeInformation (Bool.not_eq_true _ ▸ absent)
    · split at lack
      next => cases lack
      next unprivileged =>
        obtain rfl := List.mem_singleton.1 lack
        exact .privileges unprivileged
    · split at lack
      next version known =>
        split at lack
        next older =>
          obtain rfl := List.mem_singleton.1 lack
          exact .kernel known (precedes_iff.1 older)
        next => cases lack
      next => cases lack
  · intro lack
    cases lack with
    | typeInformation absent => simp [Host.unmet, absent]
    | privileges unprivileged => simp [Host.unmet, unprivileged]
    | kernel known older =>
      have older := precedes_iff.2 older
      simp [Host.unmet, known, oldestKernel, older]

/-- A line that tells of a lack. -/
inductive Tells : Requirement → Text → Prop
  | typeInformationAbsent :
      Tells .typeInformation
        "BTF support not available - /sys/kernel/btf/vmlinux does not exist".toList
  | typeInformationNotCompiled :
      Tells .typeInformation "Your kernel was not compiled with CONFIG_DEBUG_INFO_BTF=y".toList
  | notRoot : Tells .privileges "Root privileges required - run with sudo".toList
  | notCapable : Tells .privileges "eBPF programs require CAP_SYS_ADMIN capability".toList
  | kernelOld (major minor : Nat) :
      Tells (.kernel major minor)
        ("Kernel ".toList ++ Numeral.decimal major ++ ['.'] ++ Numeral.decimal minor
          ++ " found, but Linux 5.4+ required for CO-RE support".toList)

theorem tells_iff {lack : Requirement} {line : Text} : Tells lack line ↔ line ∈ lack.lines := by
  constructor
  · intro tells
    cases tells with
    | typeInformationAbsent | notRoot | kernelOld => exact List.mem_cons_self
    | typeInformationNotCompiled | notCapable => exact List.mem_cons_of_mem _ List.mem_cons_self
  · intro member
    cases lack with
    | typeInformation =>
      obtain rfl | member := List.mem_cons.1 member
      · exact .typeInformationAbsent
      · obtain rfl := List.mem_singleton.1 member
        exact .typeInformationNotCompiled
    | privileges =>
      obtain rfl | member := List.mem_cons.1 member
      · exact .notRoot
      · obtain rfl := List.mem_singleton.1 member
        exact .notCapable
    | kernel major minor =>
      obtain rfl := List.mem_singleton.1 member
      exact .kernelOld major minor

theorem Tells.lineFeed_not_mem {lack : Requirement} {line : Text} (tells : Tells lack line) :
    '\n' ∉ line := by
  cases tells with
  | typeInformationAbsent | typeInformationNotCompiled | notRoot | notCapable => decide +kernel
  | kernelOld major minor =>
    have digits (n : Nat) : '\n' ∉ Numeral.decimal n := Numeral.lineFeed_not_mem_decimal n
    have before : '\n' ∉ "Kernel ".toList := by decide
    have point : '\n' ∉ ['.'] := by decide
    have after : '\n' ∉ " found, but Linux 5.4+ required for CO-RE support".toList := by
      decide +kernel
    simp only [List.mem_append, digits, before, point, after, or_self, not_false_iff]

/-- The text of a failed check has a line for each that tells of a lack, and no other line. -/
theorem mem_lines_unmet_iff {host : Host} (some_lack : ∃ lack, Lacks host lack) (line : Text) :
    line ∈ (Text.join ['\n'] (host.unmet.flatMap Requirement.lines)).splitOn '\n' ↔
      ∃ lack, Lacks host lack ∧ Tells lack line := by
  have told {piece : Text} : piece ∈ host.unmet.flatMap Requirement.lines ↔
      ∃ lack, Lacks host lack ∧ Tells lack piece := by
    simp only [List.mem_flatMap, mem_unmet_iff, tells_iff]
  have clean : ∀ piece ∈ host.unmet.flatMap Requirement.lines, '\n' ∉ piece := by
    intro piece member
    obtain ⟨lack, -, tells⟩ := told.1 member
    exact tells.lineFeed_not_mem
  have filled : host.unmet.flatMap Requirement.lines ≠ [] := by
    obtain ⟨lack, lacks⟩ := some_lack
    obtain ⟨first, tells⟩ : ∃ first, Tells lack first := by
      cases lack with
      | typeInformation => exact ⟨_, .typeInformationAbsent⟩
      | privileges => exact ⟨_, .notRoot⟩
      | kernel major minor => exact ⟨_, .kernelOld major minor⟩
    exact List.ne_nil_of_mem (told.2 ⟨lack, lacks, tells⟩)
  rw [Text.join_eq_intercalate, List.splitOn_intercalate '\n' clean filled, told]

/-- A step of the setup that can fail. -/
inductive Stage where
  | requirements
  | object
  | opening
  | loading
  | finding (point : ProbePoint)
  | attaching (point : ProbePoint)
  | findingRing
  | addingRing
  | buildingRing
  deriving DecidableEq, Repr

/-- The steps in their order. -/
def Stage.all : List Stage :=
  [.requirements, .object, .opening, .loading, .finding udpPoint, .attaching udpPoint,
    .finding tcpPoint, .attaching tcpPoint, .findingRing, .addingRing, .buildingRing]

/-- Why the library refuses a step. -/
def Library.cause? (library : Library) : Stage → Option Text
  | .opening => library.openFault
  | .loading => library.loadFault
  | .attaching point => library.attachFaults.lookup point.program
  | .addingRing => library.addFault
  | .buildingRing => library.buildFault
  | .requirements | .object | .finding _ | .findingRing => none

/-- How a step fails by itself. -/
inductive Fails (script : Script) : Stage → SetupFault → Prop
  | requirements {lack : Requirement} (lacks : Lacks script.host lack) :
      Fails script .requirements (.unmet script.host.unmet)
  | absent (object : script.object = .embedded []) : Fails script .object .objectAbsent
  | unreadable {path : Text} {fault : FileFault}
      (object : script.object = .file path (.error fault)) :
      Fails script .object (.objectUnreadable fault)
  | empty {path : Text} (object : script.object = .file path (.ok [])) :
      Fails script .object (.objectEmpty path)
  | missing {point : ProbePoint} (absent : point.program ∉ script.library.programs) :
      Fails script (.finding point) (.programMissing point.program)
  | ringMissing (absent : ringName ∉ script.library.maps) : Fails script .findingRing .ringMissing
  | refused {stage : Stage} {cause : Text} (known : script.library.cause? stage = some cause) :
      Fails script stage (.library cause)

/-- How a failed step is told. The text for unmet requirements has its own specification. -/
inductive ToldAs : SetupFault → Failure → Prop
  | unmet (lacks : List Requirement) (text : Text) : ToldAs (.unmet lacks) (.requirements text)
  | absent :
      ToldAs .objectAbsent (.requirements
        "no eBPF object was embedded at build time (clang or bpftool missing); pass --bpf-object <path>".toList)
  | unreadable (fault : FileFault) : ToldAs (.objectUnreadable fault) (.file fault)
  | empty (path : Text) :
      ToldAs (.objectEmpty path)
        (.configuration ("eBPF object ".toList ++ path ++ " is empty".toList))
  | missing (program : Text) :
      ToldAs (.programMissing program) (.probe (program ++ " program not found".toList))
  | ringMissing : ToldAs .ringMissing (.probe "events ring buffer map not found".toList)
  | refused (cause : Text) : ToldAs (.library cause) (.probe cause)

theorem toldAs_failure (fault : SetupFault) : ToldAs fault fault.failure := by
  cases fault with
  | unmet lacks => exact .unmet lacks _
  | objectUnreadable fault => exact .unreadable fault
  | objectEmpty path => exact .empty path
  | objectAbsent => exact .absent
  | library cause => exact .refused cause
  | programMissing name => exact .missing name
  | ringMissing => exact .ringMissing

/-- The first step that fails does so in this way. -/
def FailsFirst (script : Script) (fault : SetupFault) : Prop :=
  ∃ before stage after, Stage.all = before ++ stage :: after ∧
    (∀ earlier ∈ before, ∀ other, ¬Fails script earlier other) ∧ Fails script stage fault

/-- How a step fails, if it does. -/
def Stage.fault? (script : Script) : Stage → Option SetupFault
  | .requirements => if script.host.unmet = [] then none else some (.unmet script.host.unmet)
  | .object => script.object.fault?
  | .finding point =>
    if script.library.programs.contains point.program then none
    else some (.programMissing point.program)
  | .findingRing => if script.library.maps.contains ringName then none else some .ringMissing
  | stage => (script.library.cause? stage).map .library

variable {script : Script} {stage : Stage} {fault : SetupFault}

theorem Fails.fault? (fails : Fails script stage fault) : stage.fault? script = some fault := by
  cases fails with
  | requirements lacks =>
    have unmet : script.host.unmet ≠ [] := List.ne_nil_of_mem (mem_unmet_iff.2 lacks)
    simp [Stage.fault?, unmet]
  | absent object | unreadable object | empty object =>
    simp [Stage.fault?, ObjectChoice.fault?, object]
  | missing absent | ringMissing absent => simp [Stage.fault?, absent]
  | refused known =>
    cases stage with
    | opening | loading | attaching | addingRing | buildingRing => simp [Stage.fault?, known]
    | requirements | object | finding | findingRing => cases known

theorem ObjectChoice.fault?_fails (failed : script.object.fault? = some fault) :
    Fails script .object fault := by
  cases object : script.object with
  | embedded bytes =>
    cases bytes with
    | nil =>
      rw [object] at failed
      obtain rfl := Option.some.inj failed
      exact .absent object
    | cons => simp [object, ObjectChoice.fault?] at failed
  | file path content =>
    cases content with
    | error cause =>
      rw [object] at failed
      obtain rfl := Option.some.inj failed
      exact .unreadable object
    | ok bytes =>
      cases bytes with
      | nil =>
        rw [object] at failed
        obtain rfl := Option.some.inj failed
        exact .empty object
      | cons => simp [object, ObjectChoice.fault?] at failed

theorem Stage.fault?_fails (failed : stage.fault? script = some fault) :
    Fails script stage fault := by
  cases stage with
  | requirements =>
    rw [Stage.fault?] at failed
    split at failed
    next => cases failed
    next unmet =>
      obtain rfl := Option.some.inj failed
      obtain ⟨lack, member⟩ := List.exists_mem_of_ne_nil _ unmet
      exact .requirements (mem_unmet_iff.1 member)
  | object => exact ObjectChoice.fault?_fails failed
  | finding point =>
    rw [Stage.fault?] at failed
    split at failed
    next => cases failed
    next absent =>
      obtain rfl := Option.some.inj failed
      exact .missing (by simpa using absent)
  | findingRing =>
    rw [Stage.fault?] at failed
    split at failed
    next => cases failed
    next absent =>
      obtain rfl := Option.some.inj failed
      exact .ringMissing (by simpa using absent)
  | opening | loading | attaching | addingRing | buildingRing =>
    obtain ⟨cause, known, rfl⟩ := Option.map_eq_some_iff.1 failed
    exact .refused known

theorem fails_iff : Fails script stage fault ↔ stage.fault? script = some fault :=
  ⟨Fails.fault?, Stage.fault?_fails⟩

theorem fault?_eq_none_iff : stage.fault? script = none ↔ ∀ fault, ¬Fails script stage fault := by
  simp [fails_iff, Option.eq_none_iff_forall_ne_some]

/-- The first stage with a fault, in the order of the stages. -/
theorem failsFirst_iff :
    FailsFirst script fault ↔ Stage.all.findSome? (Stage.fault? script) = some fault := by
  rw [List.findSome?_eq_some_iff]
  simp only [FailsFirst, fails_iff, fault?_eq_none_iff]
  constructor
  · rintro ⟨before, stage, after, split, quiet, failed⟩
    exact ⟨before, stage, after, split, failed, quiet⟩
  · rintro ⟨before, stage, after, split, failed, quiet⟩
    exact ⟨before, stage, after, split, quiet, failed⟩

theorem perform_of_success {step : SetupStep} (quiet : step.fault = none) (ledger : Ledger)
    (rest : List SetupStep) :
    perform ledger (step :: rest)
      = perform ((ledger.add step.calls step.notices).add [] step.success) rest := by
  rw [perform, quiet]

theorem perform_snd (ledger : Ledger) (steps : List SetupStep) :
    (perform ledger steps).2 = steps.findSome? SetupStep.fault := by
  induction steps generalizing ledger with
  | nil => rfl
  | cons step rest ih =>
    rw [perform, List.findSome?_cons]
    split
    next fault failed => rw [failed]
    next quiet => rw [quiet, ih]

theorem attachStep_fault (script : Script) (point : ProbePoint) (cleanup : List Call) :
    (attachStep script.library point cleanup).fault =
      ((Stage.finding point).fault? script).or ((Stage.attaching point).fault? script) := by
  simp only [attachStep, Stage.fault?, Library.cause?]
  split <;> simp

theorem findSome?_setupSteps (script : Script) :
    (setupSteps script.host script.object script.library).findSome? SetupStep.fault
      = Stage.all.findSome? (Stage.fault? script) := by
  have first {α : Type} (f : α → Option SetupFault) (x : α) (xs : List α) :
      (x :: xs).findSome? f = (f x).or (xs.findSome? f) := by
    cases found : f x <;> simp [found]
  simp only [setupSteps, Stage.all, first, attachStep_fault, Option.or_assoc, Option.none_or]
  rfl

theorem run_result (script : Script) :
    (run script).result = match Stage.all.findSome? (Stage.fault? script) with
      | some fault => .error fault
      | none => .ok () := by
  rw [← findSome?_setupSteps, ← perform_snd {}, run]
  split
  next ledger fault failed => rw [failed]
  next ledger ready => rw [ready]

theorem run_error_iff : (run script).result = .error fault ↔ FailsFirst script fault := by
  rw [run_result, failsFirst_iff]
  cases Stage.all.findSome? (Stage.fault? script) <;> simp

/-- What fails first is what is told. -/
theorem mapError_of_failsFirst (first : FailsFirst script fault) :
    (run script).result.mapError SetupFault.failure = .error fault.failure := by
  rw [run_error_iff.2 first]
  rfl

theorem run_ok_iff :
    (run script).result = .ok () ↔ ∀ stage ∈ Stage.all, ∀ fault, ¬Fails script stage fault := by
  simp only [← fault?_eq_none_iff, ← List.findSome?_eq_none_iff, run_result]
  cases Stage.all.findSome? (Stage.fault? script) <;> simp

/-- No step of the setup polls. -/
theorem not_polled_of_perform {steps : List SetupStep} {ledger : Ledger} {millis : Nat}
    (unpolled : .poll millis ∉ ledger.calls)
    (quiet : ∀ step ∈ steps, .poll millis ∉ step.calls ++ step.cleanup) :
    .poll millis ∉ (perform ledger steps).1.calls := by
  induction steps generalizing ledger with
  | nil => exact unpolled
  | cons step rest ih =>
    obtain ⟨here, later⟩ := List.forall_mem_cons.1 quiet
    rw [List.mem_append, not_or] at here
    have begun : .poll millis ∉ (ledger.add step.calls step.notices).calls := by
      simp [Ledger.add, unpolled, here]
    rw [perform]
    split
    next => simpa [Ledger.add, here] using begun
    next => exact ih (by simpa [Ledger.add] using begun) later

theorem setupSteps_quiet (script : Script) (millis : Nat) :
    ∀ step ∈ setupSteps script.host script.object script.library,
      .poll millis ∉ step.calls ++ step.cleanup := by
  have attaching (point : ProbePoint) {cleanup : List Call} (quiet : .poll millis ∉ cleanup) :
      .poll millis ∉ (attachStep script.library point cleanup).calls
        ++ (attachStep script.library point cleanup).cleanup := by
    unfold attachStep
    split <;> simp [quiet]
  simp only [setupSteps, List.forall_mem_cons]
  refine ⟨?_, ?_, ?_, ?_, ?_, attaching _ ?_, attaching _ ?_, ?_, ?_, ?_, nofun⟩ <;>
    simp [release]

/-- A run that fails has sent nothing and has not polled. -/
theorem run_error_silent (failed : (run script).result = .error fault) :
    (run script).sent = [] ∧ ∀ millis, .poll millis ∉ (run script).ledger.calls := by
  rw [run] at failed ⊢
  split
  next ledger cause stopped =>
    refine ⟨rfl, fun millis => ?_⟩
    have begun : .poll millis ∉ ({} : Ledger).calls := List.not_mem_nil
    have unpolled := not_polled_of_perform begun (setupSteps_quiet script millis)
    rwa [stopped] at unpolled
  next ready =>
    rw [ready] at failed
    cases failed

/-- What a ledger holds, after what another holds. -/
def Ledger.behind (ledger front : Ledger) : Ledger :=
  front.add ledger.calls ledger.notices

def ReadState.behind (state : ReadState) (front : Ledger) : ReadState :=
  { state with ledger := state.ledger.behind front }

def Finished.behind (finished : Finished) (front : Ledger) : Finished :=
  { finished with ledger := finished.ledger.behind front }

/-- The warnings that a host is worth. -/
def Host.warnings (host : Host) : List Notice :=
  host.versionNotices ++ (host.memoryLimitFault.map Notice.memoryLimitKept).toList

/-- What makes a host worth a warning. -/
inductive Warrants (host : Host) : Notice → Prop
  | kernelVersionUnknown {cause : Text} (unreadable : host.version = .error cause) :
      Warrants host (.kernelVersionUnknown cause)
  | kernelDated {major minor : Nat} (version : host.version = .ok (major, minor))
      (recent : ¬Prod.Lex (· < ·) (· < ·) (major, minor) (5, 4))
      (older : Prod.Lex (· < ·) (· < ·) (major, minor) (5, 10)) :
      Warrants host (.kernelDated major minor)
  | memoryLimitKept {cause : Text} (failed : host.memoryLimitFault = some cause) :
      Warrants host (.memoryLimitKept cause)

theorem Warrants.level {host : Host} {notice : Notice} (warrants : Warrants host notice) :
    notice.level = .warn := by
  cases warrants <;> rfl

theorem Host.mem_warnings_iff {host : Host} {notice : Notice} :
    notice ∈ host.warnings ↔ Warrants host notice := by
  constructor
  · intro member
    rcases List.mem_append.1 member with kernel | memory
    · unfold Host.versionNotices at kernel
      split at kernel
      next version known =>
        split at kernel
        next dated =>
          obtain rfl := List.mem_singleton.1 kernel
          rw [Bool.and_eq_true, Bool.not_eq_true', ← Bool.not_eq_true] at dated
          exact .kernelDated known (mt precedes_iff.2 dated.1) (precedes_iff.1 dated.2)
        next => cases kernel
      next unreadable =>
        obtain rfl := List.mem_singleton.1 kernel
        exact .kernelVersionUnknown unreadable
    · obtain ⟨cause, failed, rfl⟩ := Option.map_eq_some_iff.1 (Option.mem_toList.1 memory)
      exact .memoryLimitKept failed
  · intro warrants
    cases warrants with
    | kernelVersionUnknown unreadable => simp [warnings, versionNotices, unreadable]
    | kernelDated version recent older =>
      rw [← precedes_iff] at recent older
      simp [warnings, versionNotices, version, oldestKernel, stableKernel, recent, older]
    | memoryLimitKept failed => simp [warnings, failed]

theorem Host.nodup_warnings (host : Host) : host.warnings.Nodup := by
  rw [warnings, versionNotices]
  cases host.version with
  | error cause => cases host.memoryLimitFault <;> simp
  | ok version =>
    dsimp only
    split <;> cases host.memoryLimitFault <;> simp

section Behind

variable (front : Ledger)

theorem Ledger.behind_add (ledger : Ledger) (calls : List Call) (notices : List Notice) :
    (ledger.behind front).add calls notices = (ledger.add calls notices).behind front := by
  simp only [behind, add, List.append_assoc]

theorem perform_behind (ledger : Ledger) (steps : List SetupStep) :
    perform (ledger.behind front) steps
      = ((perform ledger steps).1.behind front, (perform ledger steps).2) := by
  induction steps generalizing ledger with
  | nil => rfl
  | cons step rest ih =>
    rw [perform, perform]
    split
    next => simp only [Ledger.behind_add]
    next => simp only [Ledger.behind_add, ih]

theorem ReadState.meet_behind (state : ReadState) (incident : Incident) :
    (state.behind front).meet incident = (state.meet incident).behind front := by
  cases incident with
  | receiverLeaves | stopRaised => rfl
  | sample bytes =>
    by_cases refused : state.refused = true
    · simp [meet, behind, refused]
    · cases packet : Packet.ofSample? bytes with
      | none => simp [meet, behind, refused, packet]
      | some =>
        cases present : state.receiverPresent <;>
          simp [meet, send, behind, refused, packet, present]

theorem ReadState.poll_behind (state : ReadState) (incidents : List Incident) :
    (state.behind front).poll incidents = (state.poll incidents).behind front := by
  have begun : { state.behind front with
        ledger := (state.behind front).ledger.add [.poll pollMillis] [] }
      = ReadState.behind { state with ledger := state.ledger.add [.poll pollMillis] [] } front := by
    simp only [behind, Ledger.behind_add]
  rw [poll, poll, begun]
  exact List.foldl_hom (behind · front) fun between incident => between.meet_behind front incident

theorem readLoop_behind (state : ReadState) (polls : List Poll) :
    readLoop (state.behind front) polls
      = ((readLoop state polls).1.behind front, (readLoop state polls).2) := by
  have ends (polled : ReadState) :
      (polled.behind front).refused = polled.refused ∧
        (polled.behind front).stopped = polled.stopped :=
    ⟨rfl, rfl⟩
  induction polls generalizing state with
  | nil => simp only [readLoop, ReadState.poll_behind, ends]
  | cons poll rest ih =>
    simp only [readLoop, ReadState.poll_behind, ends]
    cases verdict poll.fault (state.poll poll.incidents).refused
        (state.poll poll.incidents).stopped with
    | goOn => exact ih _
    | report cause =>
      have noted : ((state.poll poll.incidents).behind front).note (.pollFailed cause)
          = ((state.poll poll.incidents).note (.pollFailed cause)).behind front := by
        simp only [ReadState.note, ReadState.behind, Ledger.behind_add]
      simp only [noted, ih]
    | finish reason => rfl

/-- What comes after a setup. -/
def conclude (polls : List Poll) (stopped : Bool) : Ledger × Option SetupFault → Finished
  | (ledger, some fault) => ⟨.error fault, [], ledger⟩
  | (ledger, none) =>
    let (last, reason) := readLoop { stopped := stopped, ledger := ledger } polls
    ⟨.ok (), last.sent, last.ledger.add (.dropRing :: release) [reason.notice]⟩

theorem run_eq_conclude (script : Script) :
    run script = conclude script.polls script.stopped
      (perform {} (setupSteps script.host script.object script.library)) := by
  rw [run]
  split
  next setup => rw [setup, conclude]
  next setup => rw [setup, conclude]

theorem conclude_behind (polls : List Poll) (stopped : Bool) (ledger : Ledger)
    (fault : Option SetupFault) :
    conclude polls stopped (ledger.behind front, fault)
      = (conclude polls stopped (ledger, fault)).behind front := by
  cases fault with
  | some fault => rfl
  | none =>
    have looped := readLoop_behind front { stopped := stopped, ledger := ledger } polls
    rw [ReadState.behind] at looped
    rw [conclude, looped]
    simp only [ReadState.behind, Ledger.behind_add]
    rfl

end Behind

/-- Nothing but the warnings depends on a host that lacks nothing. -/
theorem run_of_met (script : Script) :
    ∃ finished : Finished, ∀ host : Host, host.unmet = [] →
      run { script with host := host }
        = finished.behind ⟨[.raiseMemoryLimit], host.warnings⟩ := by
  let rest := (setupSteps script.host script.object script.library).drop 2
  refine ⟨conclude script.polls script.stopped (perform {} rest), fun host met => ?_⟩
  have begun : perform {} (setupSteps host script.object script.library)
      = perform (Ledger.behind {} ⟨[.raiseMemoryLimit], host.warnings⟩) rest := by
    rw [setupSteps, perform_of_success (by simp [met]), perform_of_success rfl]
    simp [rest, setupSteps, Ledger.add, Ledger.behind, Host.warnings]
  rw [run_eq_conclude, begun, perform_behind, conclude_behind]

/-- How and when a run of the probes fails, and what it warns of. -/
structure Script.FailsInSetup (script : Script) : Prop where
  error : ∀ fault, (run script).result = .error fault ↔ FailsFirst script fault
  ok : (run script).result = .ok () ↔ ∀ stage ∈ Stage.all, ∀ fault, ¬Fails script stage fault
  told : ∀ fault, FailsFirst script fault → ∃ failure,
    (run script).result.mapError SetupFault.failure = .error failure ∧ ToldAs fault failure
  silent : ∀ fault, (run script).result = .error fault →
    (run script).sent = [] ∧ ∀ millis, .poll millis ∉ (run script).ledger.calls
  unmet : ∀ lack, lack ∈ script.host.unmet ↔ Lacks script.host lack
  reported : (∃ lack, Lacks script.host lack) → ∃ text,
    (run script).result.mapError SetupFault.failure = .error (.requirements text) ∧
      ∀ line, line ∈ text.splitOn '\n' ↔ ∃ lack, Lacks script.host lack ∧ Tells lack line
  warned : ∃ finished : Finished, ∀ host : Host, (∀ lack, ¬Lacks host lack) → ∃ warnings,
    run { script with host := host }
        = ⟨finished.result, finished.sent,
            ⟨.raiseMemoryLimit :: finished.ledger.calls, warnings ++ finished.ledger.notices⟩⟩ ∧
      (∀ notice, notice ∈ warnings ↔ Warrants host notice) ∧
      warnings.Nodup ∧ ∀ notice ∈ warnings, notice.level = .warn

theorem Script.failsInSetup (script : Script) : script.FailsInSetup where
  error fault := run_error_iff
  ok := run_ok_iff
  told fault first := ⟨fault.failure, mapError_of_failsFirst first, toldAs_failure fault⟩
  silent fault := run_error_silent
  unmet lack := mem_unmet_iff
  reported := by
    rintro ⟨lack, lacks⟩
    have first : FailsFirst script (.unmet script.host.unmet) :=
      ⟨[], .requirements, _, rfl, nofun, .requirements lacks⟩
    exact ⟨_, mapError_of_failsFirst first, mem_lines_unmet_iff ⟨lack, lacks⟩⟩
  warned := by
    obtain ⟨finished, ran⟩ := run_of_met script
    refine ⟨finished, fun host meets => ⟨host.warnings, ?_, fun _ => Host.mem_warnings_iff,
      host.nodup_warnings, fun _ member => (Host.mem_warnings_iff.1 member).level⟩⟩
    have met : host.unmet = [] := by
      rw [List.eq_nil_iff_forall_not_mem]
      exact fun lack member => meets lack (mem_unmet_iff.1 member)
    exact ran host met

end QueryWatch.Probe
