import QueryWatch.Trace.Session

/-!
# Interleavings of a trace session

The session's thread runs the callback, once for each event and in order. The capture thread
starts the session, waits until the stop signal or the mark of a closed sink is up, and stops
the session. The receiver may leave and the signal may go up at any time.

The callback looks at the mark when it begins, and raises it in a step of its own after its
report could not be sent; the capture thread may look in between. Events arrive from the time
the session is started, even before the call that starts it returns, until it is stopped. A
callback that is under way by then goes on to its end.

Waiting changes nothing and is no step. A time stamp outside the range of clock arithmetic ends
the program, and here leaves the callback where it is.
-/
namespace QueryWatch.Trace.Interleaving

/-- Why starting and stopping the session fail, if they do. -/
structure Faults where
  start : Option Text
  stop : Option Text

/-- Where the capture thread is. -/
inductive Stage where
  | starting
  | waiting
  | closing
  /-- The session is stopped. -/
  | ended
  | returned
  deriving DecidableEq, Repr

namespace Stage

/-- Whether the session, once it is started, still delivers events. -/
def isLive : Stage → Bool
  | .starting | .waiting | .closing => true
  | .ended | .returned => false

/-- Steps that the capture thread still has before it, at most. -/
def remaining : Stage → Nat
  | .starting => 4
  | .waiting => 3
  | .closing => 2
  | .ended => 1
  | .returned => 0

end Stage

/-- What the callback has before it. -/
inductive Callback where
  | idle
  | building (event : Event)
  | sending (event : Event) (report : Report)
  /-- Its report could not be sent, and the mark is not yet up. -/
  | refused

namespace Callback

/-- The event that is not yet settled. -/
def event? : Callback → Option Event
  | .idle => none
  | .building event => some event
  | .sending event _ => some event
  | .refused => none

/-- The report that is built and not yet sent. -/
def report? : Callback → Option Report
  | .sending _ report => some report
  | _ => none

def isRefused : Callback → Bool
  | .refused => true
  | _ => false

/-- Steps that the callback still has before it, at most. -/
def remaining : Callback → Nat
  | .idle => 0
  | .refused => 1
  | .sending .. => 2
  | .building _ => 3

end Callback

/-- Both threads, what they share, and what each has done so far. -/
structure State where
  stage : Stage := .starting
  callback : Callback := .idle
  receiverPresent : Bool := true
  /-- The mark that a report could not be sent. -/
  sinkClosed : Bool := false
  stopped : Bool := false
  /-- Events for which the callback has begun. -/
  arrived : List Event := []
  /-- Events that the callback has settled, and the leaving of the receiver. -/
  met : List Incident := []
  built : List Report := []
  sent : List Report := []
  calls : List Call := [.provider bareProvider, .session sessionName]
  notices : List Notice := []
  result : Option (Except Failure Unit) := none

def stopNotices (faults : Faults) : List Notice :=
  (faults.stop.map (Notice.sessionStopFailed sessionName)).toList

inductive Step (faults : Faults) : State → State → Prop
  /-- The session cannot be started. -/
  | fail {s : State} {cause : Text} (stage : s.stage = .starting)
      (fault : faults.start = some cause) :
      Step faults s
        { s with stage := .returned, result := some (.error (startFailure cause)) }
  /-- The call that starts the session returns. -/
  | enable {s : State} (stage : s.stage = .starting) (started : faults.start = none) :
      Step faults s
        { s with
          stage := .waiting
          notices := s.notices ++ [.sessionEnabled sessionName providerName] }
  /-- The capture thread sees the signal or the mark. -/
  | leave {s : State} (stage : s.stage = .waiting)
      (reason : s.stopped = true ∨ s.sinkClosed = true) :
      Step faults s
        { s with
          stage := .closing
          notices := s.notices ++ [.sessionClosing sessionName] }
  | stop {s : State} (stage : s.stage = .closing) :
      Step faults s
        { s with
          stage := .ended
          calls := s.calls ++ [.stop]
          notices := s.notices ++ stopNotices faults }
  | finish {s : State} (stage : s.stage = .ended) :
      Step faults s { s with stage := .returned, result := some (.ok ()) }
  /-- The callback begins. -/
  | arrive {s : State} (event : Event) (started : faults.start = none)
      (live : s.stage.isLive = true) (free : s.callback = .idle)
      (unmarked : s.sinkClosed = false) :
      Step faults s
        { s with callback := .building event, arrived := s.arrived ++ [event] }
  /-- The callback sees the mark and is done. -/
  | pass {s : State} (event : Event) (started : faults.start = none)
      (live : s.stage.isLive = true) (free : s.callback = .idle)
      (marked : s.sinkClosed = true) :
      Step faults s
        { s with arrived := s.arrived ++ [event], met := s.met ++ [.event event] }
  /-- The event has no schema. -/
  | miss {s : State} {event : Event} {cause : Text} (begun : s.callback = .building event)
      (schema : event.schema = .error cause) :
      Step faults s
        { s with
          callback := .idle
          met := s.met ++ [.event event]
          notices := s.notices ++ [.schemaMissing event.eventId cause] }
  | build {s : State} {event : Event} {properties : List Property} {report : Report}
      (begun : s.callback = .building event) (schema : event.schema = .ok properties)
      (told : event.report properties = .ok report) :
      Step faults s
        { s with callback := .sending event report, built := s.built ++ [report] }
  | send {s : State} {event : Event} {report : Report}
      (ready : s.callback = .sending event report) (receives : s.receiverPresent = true) :
      Step faults s
        { s with
          callback := .idle
          met := s.met ++ [.event event]
          sent := s.sent ++ [report] }
  /-- Nobody receives the report. -/
  | refuse {s : State} {event : Event} {report : Report}
      (ready : s.callback = .sending event report) (gone : s.receiverPresent = false) :
      Step faults s { s with callback := .refused, met := s.met ++ [.event event] }
  | mark {s : State} (refused : s.callback = .refused) :
      Step faults s { s with callback := .idle, sinkClosed := true }
  | lose {s : State} :
      Step faults s { s with receiverPresent := false, met := s.met ++ [.receiverLeaves] }
  | raise {s : State} :
      Step faults s { s with stopped := true }

/-- States that any number of steps reach from another. -/
inductive Reaches (faults : Faults) : State → State → Prop
  | refl {s : State} : Reaches faults s s
  | step {s t u : State} (before : Reaches faults s t) (action : Step faults t u) :
      Reaches faults s u

end QueryWatch.Trace.Interleaving
