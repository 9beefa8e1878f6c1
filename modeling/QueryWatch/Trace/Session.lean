import QueryWatch.Failure
import QueryWatch.Notice
import QueryWatch.Trace.Property

/-!
# The trace session backend

A session is enabled for one provider and delivers its events in order while it
starts. An event with a schema is sent on as a report; one without is worth a
notice. After the first report that cannot be sent nothing is built any more.
The session is then stopped, once, and a stop that fails is worth a notice only.

The time stamp of an event may lie too far back for its clock arithmetic; this
ends the run without a result.
-/
namespace QueryWatch.Trace

def backendName : Text := "etw".toList
def sessionName : Text := "FafDnsMonitor".toList

/-- The provider without the braces of its registry form. -/
def bareProvider : Text := "1C95126E-7EEA-49A9-A3FE-A378B03DDB4D".toList

/-- The provider of DNS client events in registry form. -/
def providerName : Text := ['\x7b'] ++ bareProvider ++ ['\x7d']

inductive Call where
  | provider (id : Text)
  | session (name : Text)
  | stop
  deriving DecidableEq, Repr

def Call.shown : Call → Text
  | .provider id => "provider ".toList ++ id
  | .session name => "session ".toList ++ name
  | .stop => "stop".toList

structure Event where
  eventId : UInt16
  processId : UInt32
  threadId : UInt32
  fileTime : Int64
  clock : Instant
  /-- The schema's properties, or why there is no schema. -/
  schema : Except Text (List Property)

inductive Incident where
  | event (event : Event)
  | receiverLeaves

/-- Clock arithmetic left its range. -/
structure ClockOverflow where
  deriving DecidableEq, Repr

def ClockOverflow.message (_ : ClockOverflow) : Text :=
  "attempt to subtract with overflow".toList

def Event.report (event : Event) (properties : List Property) : Except ClockOverflow Report :=
  match Instant.ofFileTime? event.clock event.fileTime with
  | none => .error {}
  | some time => .ok
    { provider := providerName
      eventId := event.eventId
      processId := event.processId
      threadId := event.threadId
      time := time
      fields := Property.fields properties }

structure Script where
  incidents : List Incident
  startFault : Option Text
  stopFault : Option Text

structure Delivery where
  sent : List Report := []
  receiverPresent : Bool := true
  /-- A report could not be sent. -/
  refused : Bool := false
  notices : List Notice := []
  deriving DecidableEq

namespace Delivery

/-- Sends a report, or finds out that nobody receives it. -/
def send (state : Delivery) (report : Report) : Delivery :=
  if state.receiverPresent then { state with sent := state.sent ++ [report] }
  else { state with refused := true }

def meet (state : Delivery) : Incident → Except ClockOverflow Delivery
  | .receiverLeaves => .ok { state with receiverPresent := false }
  | .event event =>
    if state.refused then .ok state
    else
      match event.schema with
      | .error cause =>
        .ok { state with notices := state.notices ++ [.schemaMissing event.eventId cause] }
      | .ok properties =>
        match event.report properties with
        | .error overflow => .error overflow
        | .ok report => .ok (state.send report)

def meetAll (state : Delivery) : List Incident → Except ClockOverflow Delivery
  | [] => .ok state
  | incident :: rest =>
    match state.meet incident with
    | .error overflow => .error overflow
    | .ok next => next.meetAll rest

end Delivery

structure Finished where
  result : Except Failure Unit
  sent : List Report
  calls : List Call
  notices : List Notice

def startFailure (cause : Text) : Failure :=
  .trace ("could not start session ".toList ++ sessionName ++ ": ".toList ++ cause)

def closingNotices (stopFault : Option Text) : List Notice :=
  [.sessionEnabled sessionName providerName, .sessionClosing sessionName]
    ++ (stopFault.map (Notice.sessionStopFailed sessionName)).toList

/-- A whole run, with the stop signal up. -/
def run (script : Script) : Except ClockOverflow Finished :=
  let opening := [Call.provider bareProvider, .session sessionName]
  match script.startFault with
  | some cause => .ok ⟨.error (startFailure cause), [], opening, []⟩
  | none =>
    match ({} : Delivery).meetAll script.incidents with
    | .error overflow => .error overflow
    | .ok delivery =>
      .ok ⟨.ok (), delivery.sent, opening ++ [.stop],
        delivery.notices ++ closingNotices script.stopFault⟩

end QueryWatch.Trace
