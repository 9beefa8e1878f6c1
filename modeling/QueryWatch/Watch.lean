import QueryWatch.Failure
import QueryWatch.Handler

/-!
# The watch

A source of captures runs on a thread of its own and feeds the handler through
a bounded queue. The source looks at the stop signal before it sends a capture,
and ends at once if the signal is up. When it has ended, for whatever reason,
the handler takes what is left in the queue and finishes; then the stop signal
is raised and the watch has its result: the counters if the source returned,
else the failure of the source.

This module states the run as if captures were handled after each other on one
thread. The interleavings of the two threads are a module of their own.
-/
namespace QueryWatch

/-- What a thread that died left behind. Threads are taken to unwind; a program that is built to
abort ends as a whole, and its watch has no result. -/
inductive Crash where
  | text (message : Text)
  | other
  deriving DecidableEq, Repr

def Crash.message : Crash → Text
  | .text message => message
  | .other => "capture thread panicked".toList

/-- How a source ends after its last capture. -/
inductive Ending where
  | returned
  | failed (failure : Failure)
  | crashed (crash : Crash)
  deriving DecidableEq, Repr

def Ending.result (ending : Ending) (tally : Tally) : Except Failure Tally :=
  match ending with
  | .returned => .ok tally
  | .failed failure => .error failure
  | .crashed crash => .error (.captureThread crash.message)

structure Source where
  name : Text
  arrivals : List Arrival
  ending : Ending
  deriving DecidableEq

/-- The captures a source sends and how it ends, when the stop signal goes up
after so many sends, or never. -/
def Source.sends (source : Source) : Option Nat → List Arrival × Ending
  | none => (source.arrivals, source.ending)
  | some n =>
    if n < source.arrivals.length then (source.arrivals.take n, .returned)
    else (source.arrivals, source.ending)

namespace Watch

def capacity (requested : Nat) : Nat :=
  max requested 1

structure Finished where
  result : Except Failure Tally
  progress : Progress
  stopped : Bool

def initial (source : Source) (writer : Writer) : Progress :=
  { writer := writer, notices := [.captureStarted source.name] }

def run (handler : Handler) (source : Source) (stopAfter : Option Nat) (writer : Writer) :
    Finished :=
  let (arrivals, ending) := source.sends stopAfter
  let progress := handler.run (initial source writer) arrivals
  { result := ending.result progress.tally
    progress := progress
    stopped := true }

end Watch
end QueryWatch
