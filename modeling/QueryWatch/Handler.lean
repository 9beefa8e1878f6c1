import QueryWatch.Query.OfCapture
import QueryWatch.ProcessTable
import QueryWatch.Display

/-!
# The handler

One capture at a time, in order of arrival: decode it, judge it, name the
process, render, write. A capture that fails anywhere is dropped and counted,
and the next one is handled. The process is named only for queries that are
admitted, because that costs system calls.

The progress of a run is a ledger: what the writer accepted, the counters, the
process ids asked for and the notices, each in order.
-/
namespace QueryWatch

/-- A capture with the reading of the clock when it is handled. -/
structure Arrival where
  capture : Capture
  now : Instant
  deriving DecidableEq

/-- The ledger of a run. -/
structure Progress where
  writer : Writer
  tally : Tally := {}
  asked : List UInt32 := []
  notices : List Notice := []
  deriving DecidableEq, Repr

namespace Progress

def note (progress : Progress) (notices : List Notice) : Progress :=
  { progress with notices := progress.notices ++ notices }

def ask (progress : Progress) (id : UInt32) : Progress :=
  { progress with asked := progress.asked ++ [id] }

def conclude (progress : Progress) (outcome : Outcome) : Progress × Outcome :=
  ({ progress with tally := progress.tally.record outcome }, outcome)

end Progress

/-- What stays the same during a run. -/
structure Handler where
  admission : Admission
  resolver : Resolver
  display : Display

namespace Handler

/-- What the arrival of a capture has to tell. -/
def arrivalNotices : Capture → List Notice
  | .packet _ => []
  | .report report => [.reportReceived report.eventId report.provider]

def publish (handler : Handler) (progress : Progress) (query : Query) : Progress × Outcome :=
  let found := handler.resolver query.processId
  let sighting : Sighting := ⟨query, found.sender⟩
  let asked := (progress.ask query.processId).note found.notices
  match handler.display.emit progress.writer sighting with
  | (writer, none) => { asked with writer := writer }.conclude (.emitted sighting)
  | (writer, some fault) =>
    ({ asked with writer := writer }.note [.queryUnwritten query.name fault]).conclude
      (.emitFailed sighting)

def handle (handler : Handler) (progress : Progress) (arrival : Arrival) :
    Progress × Outcome :=
  let received := progress.note (arrivalNotices arrival.capture)
  match Query.ofCapture? arrival.now arrival.capture with
  | none => received.conclude .malformed
  | some query =>
    match handler.admission.rejection? query with
    | some reason => (received.note [.queryDropped query.name reason]).conclude (.filtered reason)
    | none => handler.publish received query

def handleAll (handler : Handler) (progress : Progress) : List Arrival → Progress
  | [] => progress
  | arrival :: rest => handler.handleAll (handler.handle progress arrival).1 rest

def outcomes (handler : Handler) (progress : Progress) : List Arrival → List Outcome
  | [] => []
  | arrival :: rest =>
    (handler.handle progress arrival).2
      :: handler.outcomes (handler.handle progress arrival).1 rest

/-- Writes the header. A run goes on without it. -/
def start (handler : Handler) (progress : Progress) : Progress :=
  match handler.display.writeHeader progress.writer with
  | (writer, none) => { progress with writer := writer }
  | (writer, some fault) => { progress with writer := writer }.note [.headerUnwritten fault]

def finish (progress : Progress) : Progress :=
  progress.note [.runFinished progress.tally]

/-- A whole run: header, captures, counters. -/
def run (handler : Handler) (progress : Progress) (arrivals : List Arrival) : Progress :=
  finish (handler.handleAll (handler.start progress) arrivals)

end Handler
end QueryWatch
