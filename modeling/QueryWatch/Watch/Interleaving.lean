import QueryWatch.Watch

/-!
# Interleavings of a watch

The capture thread, the handler thread and anyone who holds the stop signal
take turns in any order. The capture thread looks at the signal, then hands its
capture over as soon as the queue has room; the signal may go up in between.
The handler thread writes the header, takes captures from the queue, and
finishes when the queue is empty and the source has ended. Joining the ended
capture thread gives the result.
-/
namespace QueryWatch.Interleaving

inductive Stage where
  | starting
  | handling
  | finished
  deriving DecidableEq, Repr

/-- Both threads, what is between them, and what each has done so far. -/
structure State where
  /-- Captures the source has not yet looked at the signal for. -/
  remaining : List Arrival
  /-- A capture on its way into the queue. -/
  held : Option Arrival := none
  /-- How the source ended, once it has. -/
  ended : Option Ending := none
  queue : List Arrival := []
  sent : List Arrival := []
  handled : List Arrival := []
  stage : Stage := .starting
  progress : Progress
  stopped : Bool := false
  result : Option (Except Failure Tally) := none

def initial (source : Source) (writer : Writer) : State where
  remaining := source.arrivals
  progress := Watch.initial source writer

inductive Step (handler : Handler) (source : Source) (capacity : Nat) : State → State → Prop
  /-- The source sees that it may go on. -/
  | look {s : State} {arrival : Arrival} {rest : List Arrival}
      (running : s.ended = none) (free : s.held = none) (signal : s.stopped = false)
      (next : s.remaining = arrival :: rest) :
      Step handler source capacity s { s with remaining := rest, held := some arrival }
  /-- The queue has room for the capture the source holds. -/
  | send {s : State} {arrival : Arrival}
      (running : s.ended = none) (holds : s.held = some arrival)
      (room : s.queue.length < capacity) :
      Step handler source capacity s
        { s with held := none, queue := s.queue ++ [arrival], sent := s.sent ++ [arrival] }
  /-- The source sees that it shall stop. -/
  | obey {s : State}
      (running : s.ended = none) (free : s.held = none) (signal : s.stopped = true)
      (more : s.remaining ≠ []) :
      Step handler source capacity s { s with ended := some .returned }
  /-- The source has nothing left to send. -/
  | exhaust {s : State}
      (running : s.ended = none) (free : s.held = none) (none_left : s.remaining = []) :
      Step handler source capacity s { s with ended := some source.ending }
  | start {s : State} (stage : s.stage = .starting) :
      Step handler source capacity s
        { s with stage := .handling, progress := handler.start s.progress }
  /-- The handler handles the oldest capture in the queue. -/
  | take {s : State} {arrival : Arrival} {rest : List Arrival}
      (stage : s.stage = .handling) (oldest : s.queue = arrival :: rest) :
      Step handler source capacity s
        { s with
          queue := rest
          handled := s.handled ++ [arrival]
          progress := (handler.handle s.progress arrival).1 }
  /-- The handler sees the end of the queue and the stop signal goes up. -/
  | finish {s : State} {ending : Ending}
      (stage : s.stage = .handling) (empty : s.queue = []) (complete : s.ended = some ending) :
      Step handler source capacity s
        { s with stage := .finished, progress := Handler.finish s.progress, stopped := true }
  /-- The capture thread is joined. -/
  | join {s : State} {ending : Ending}
      (stage : s.stage = .finished) (complete : s.ended = some ending) (waiting : s.result = none) :
      Step handler source capacity s
        { s with result := some (ending.result s.progress.tally) }
  | raise {s : State} :
      Step handler source capacity s { s with stopped := true }

/-- States that any number of actions reach from another. -/
inductive Reaches (handler : Handler) (source : Source) (capacity : Nat) :
    State → State → Prop
  | refl {s : State} : Reaches handler source capacity s s
  | step {s t u : State} (before : Reaches handler source capacity s t)
      (action : Step handler source capacity t u) : Reaches handler source capacity s u

end QueryWatch.Interleaving
