import QueryWatch.Proofs.Handling
import QueryWatch.Watch.Interleaving

/-!
# Delivery between the threads of a watch

Every reachable state splits the captures of the source into those handled,
those queued, the one on its way and those not yet looked at, in this order, and
its ledger is the one of the captures handled so far. So whatever turns the
parties took, a watch that has returned has handled what was sent as if on one
thread, and its result follows the ending of the source.

Each action other than raising the signal uses up a piece of work, and until the
watch has returned one of its threads can act. Hence no schedule of the threads
ends early or goes on forever.
-/
namespace QueryWatch

theorem Handler.handleAll_append (handler : Handler) (progress : Progress)
    (first second : List Arrival) :
    handler.handleAll progress (first ++ second) =
      handler.handleAll (handler.handleAll progress first) second := by
  induction first generalizing progress with
  | nil => rfl
  | cons arrival first ih => exact ih _

theorem Ending.result_eq_ok_iff (ending : Ending) (tally counted : Tally) :
    ending.result tally = .ok counted ↔ ending = .returned ∧ counted = tally := by
  cases ending <;> simp [Ending.result, eq_comm]

theorem Ending.result_eq_error_iff (ending : Ending) (tally : Tally) (failure : Failure) :
    ending.result tally = .error failure ↔
      ending = .failed failure ∨
        (∃ message, ending = .crashed (.text message) ∧ failure = .captureThread message) ∨
        ending = .crashed .other ∧ failure = .captureThread "capture thread panicked".toList := by
  constructor
  · intro told
    cases ending with
    | returned => cases told
    | failed own => exact .inl (congrArg Ending.failed (Except.error.inj told))
    | crashed crash =>
      have same : .captureThread crash.message = failure := Except.error.inj told
      cases crash with
      | text message => exact .inr (.inl ⟨message, rfl, same.symm⟩)
      | other => exact .inr (.inr ⟨rfl, same.symm⟩)
  · rintro (rfl | ⟨message, rfl, rfl⟩ | ⟨rfl, rfl⟩) <;> rfl

namespace Interleaving

/-- The ledger of a handler thread at a stage, after the captures it handled. -/
def Stage.ledger (handler : Handler) (initial : Progress) (handled : List Arrival) :
    Stage → Progress
  | .starting => initial
  | .handling => handler.handleAll (handler.start initial) handled
  | .finished => handler.run initial handled

structure Invariant (handler : Handler) (source : Source) (capacity : Nat) (writer : Writer)
    (s : State) : Prop where
  split : s.sent ++ (s.held.toList ++ s.remaining) = source.arrivals
  queued : s.handled ++ s.queue = s.sent
  bounded : s.queue.length ≤ capacity
  ended : ∀ ending, s.ended = some ending → s.held = none ∧
    (s.remaining = [] ∧ ending = source.ending ∨ s.remaining ≠ [] ∧ ending = .returned)
  untouched : s.stage = .starting → s.handled = []
  ledger : s.progress = s.stage.ledger handler (Watch.initial source writer) s.handled
  finished : s.stage = .finished → s.queue = [] ∧ s.ended.isSome ∧ s.stopped = true
  result : ∀ result, s.result = some result → s.stage = .finished ∧
    ∃ ending, s.ended = some ending ∧ result = ending.result s.progress.tally

variable {handler : Handler} {source : Source} {capacity : Nat} {writer : Writer}
variable {s t : State}

theorem invariant_initial : Invariant handler source capacity writer (initial source writer) where
  split := rfl
  queued := rfl
  bounded := Nat.zero_le _
  ended := by simp [initial]
  untouched := fun _ => rfl
  ledger := rfl
  finished := by simp [initial]
  result := by simp [initial]

theorem Invariant.stage_ne_finished (inv : Invariant handler source capacity writer s)
    (running : s.ended = none) : s.stage ≠ .finished := by
  intro stage
  have ended := (inv.finished stage).2.1
  simp [running] at ended

theorem Invariant.result_eq_none (inv : Invariant handler source capacity writer s)
    (early : s.stage ≠ .finished) : s.result = none := by
  rw [Option.eq_none_iff_forall_ne_some]
  intro result returned
  exact early (inv.result result returned).1

/-- Every action of every party keeps the invariant. -/
theorem Invariant.step (inv : Invariant handler source capacity writer s)
    (action : Step handler source capacity s t) :
    Invariant handler source capacity writer t := by
  have ledger := inv.ledger
  cases action with
  | @look arrival rest running free signal next =>
    exact { inv with
      split := by simpa [free, next] using inv.split
      ended := by simp [running] }
  | @send arrival running holds room =>
    exact { inv with
      split := by simpa [holds] using inv.split
      queued := by simp [← inv.queued]
      bounded := by rw [List.length_append]; exact room
      ended := by simp [running]
      finished := fun stage => absurd stage (inv.stage_ne_finished running) }
  | obey running free signal more =>
    have early := inv.stage_ne_finished running
    exact { inv with
      ended := by rintro ending ⟨⟩; exact ⟨free, .inr ⟨more, rfl⟩⟩
      finished := fun stage => absurd stage early
      result := by simp [inv.result_eq_none early] }
  | exhaust running free none_left =>
    have early := inv.stage_ne_finished running
    exact { inv with
      ended := by rintro ending ⟨⟩; exact ⟨free, .inl ⟨none_left, rfl⟩⟩
      finished := fun stage => absurd stage early
      result := by simp [inv.result_eq_none early] }
  | start stage =>
    rw [stage] at ledger
    exact { inv with
      untouched := by simp
      ledger := by rw [ledger, inv.untouched stage]; rfl
      finished := by simp
      result := by simp [inv.result_eq_none (by simp [stage])] }
  | @take arrival rest stage oldest =>
    rw [stage] at ledger
    exact { inv with
      queued := by simp [← inv.queued, oldest]
      bounded := by
        have bounded := inv.bounded
        rw [oldest] at bounded
        exact Nat.le_of_succ_le bounded
      untouched := by simp [stage]
      ledger := by rw [ledger, stage]; exact (handler.handleAll_append _ _ [arrival]).symm
      finished := by simp [stage]
      result := by simp [inv.result_eq_none (by simp [stage])] }
  | @finish ending stage empty complete =>
    rw [stage] at ledger
    exact { inv with
      untouched := by simp
      ledger := by rw [ledger]; rfl
      finished := fun _ => ⟨empty, by simp [complete], rfl⟩
      result := by simp [inv.result_eq_none (by simp [stage])] }
  | @join ending stage complete waiting =>
    exact { inv with
      result := by rintro result ⟨⟩; exact ⟨stage, ending, complete, rfl⟩ }
  | raise =>
    exact { inv with
      finished := fun stage => ⟨(inv.finished stage).1, (inv.finished stage).2.1, rfl⟩ }

theorem Reaches.invariant
    (reached : Reaches handler source capacity (initial source writer) s) :
    Invariant handler source capacity writer s := by
  induction reached with
  | refl => exact invariant_initial
  | step _ action ih => exact ih.step action

/-- Actions that a stage still has before it. -/
def Stage.remaining : Stage → Nat
  | .starting => 2
  | .handling => 1
  | .finished => 0

/-- Actions that the two threads can take at most. A capture is looked at, sent
and handled. -/
def State.work (s : State) : Nat :=
  3 * s.remaining.length + 2 * s.held.toList.length + s.queue.length
    + (if s.ended = none then 1 else 0) + s.stage.remaining
    + (if s.result = none then 1 else 0)

theorem Step.uses_work (action : Step handler source capacity s t) :
    t.work < s.work ∨ t = { s with stopped := true } := by
  cases action with
  | raise => exact .inr rfl
  | look running free signal next => left; simp [State.work, free, next]; omega
  | send running holds room => left; simp [State.work, holds]; omega
  | obey running free signal more => left; simp [State.work, running]
  | exhaust running free none_left => left; simp [State.work, running]
  | start stage => left; simp [State.work, stage, Stage.remaining]
  | take stage oldest => left; simp [State.work, oldest]
  | finish stage empty complete => left; simp [State.work, stage, Stage.remaining]
  | join stage complete waiting => left; simp [State.work, waiting]

/-- Until the watch has returned one of its threads can act. The queue has room
for one capture at least, so an empty queue never blocks the source. -/
theorem Invariant.can_act (inv : Invariant handler source capacity writer s)
    (room : 0 < capacity) (waiting : s.result = none) :
    ∃ t, Step handler source capacity s t ∧ t.work < s.work := by
  suffices ∃ t, Step handler source capacity s t ∧ t ≠ { s with stopped := true } by
    obtain ⟨t, action, other⟩ := this
    exact ⟨t, action, action.uses_work.resolve_right other⟩
  cases stage : s.stage with
  | starting => exact ⟨_, .start stage, by simp⟩
  | finished =>
    obtain ⟨ending, complete⟩ := Option.isSome_iff_exists.1 (inv.finished stage).2.1
    exact ⟨_, .join stage complete waiting, by simp [waiting]⟩
  | handling =>
    cases queue : s.queue with
    | cons arrival rest => exact ⟨_, .take stage queue, by simp⟩
    | nil =>
      cases running : s.ended with
      | some ending => exact ⟨_, .finish stage queue running, by simp⟩
      | none =>
        cases holds : s.held with
        | some arrival => exact ⟨_, .send running holds (by simpa [queue] using room), by simp⟩
        | none =>
          cases next : s.remaining with
          | nil => exact ⟨_, .exhaust running holds next, by simp⟩
          | cons arrival rest =>
            cases signal : s.stopped with
            | false => exact ⟨_, .look running holds signal next, by simp⟩
            | true => exact ⟨_, .obey running holds signal (by simp [next]), by simp⟩

/-- What holds of a watch that has returned. A source that failed tells its own failure. One that
crashed is told by the text that it left behind, or by a fixed text if it left no text. -/
structure Returned (handler : Handler) (source : Source) (writer : Writer) (s : State)
    (result : Except Failure Tally) : Prop where
  delivered : s.handled = s.sent
  sequential : s.progress = handler.run (Watch.initial source writer) s.sent
  stopped : s.stopped = true
  ok_iff : ∀ tally, result = .ok tally ↔ s.ended = some .returned ∧ tally = s.progress.tally
  error_iff : ∀ failure, result = .error failure ↔
    s.ended = some (.failed failure) ∨
      (∃ message, s.ended = some (.crashed (.text message)) ∧
        failure = .captureThread message) ∨
      s.ended = some (.crashed .other) ∧
        failure = .captureThread "capture thread panicked".toList
  realised : ∃ stopAfter, s.ended = some (source.sends stopAfter).2 ∧
    s.sent = (source.sends stopAfter).1 ∧
    Watch.run handler source stopAfter writer = ⟨result, s.progress, s.stopped⟩

theorem Invariant.sends (inv : Invariant handler source capacity writer s) {ending : Ending}
    (complete : s.ended = some ending) :
    ∃ stopAfter, source.sends stopAfter = (s.sent, ending) := by
  obtain ⟨free, ⟨none_left, rfl⟩ | ⟨more, rfl⟩⟩ := inv.ended ending complete
  · have all : s.sent = source.arrivals := by simpa [free, none_left] using inv.split
    exact ⟨none, by rw [all]; rfl⟩
  · have split : s.sent ++ s.remaining = source.arrivals := by simpa [free] using inv.split
    have fewer : s.sent.length < source.arrivals.length := by
      rw [← split, List.length_append]
      have := List.length_pos_iff.2 more
      omega
    refine ⟨some s.sent.length, ?_⟩
    rw [Source.sends, if_pos fewer, ← split, List.take_left]

theorem Invariant.returned (inv : Invariant handler source capacity writer s)
    {result : Except Failure Tally} (returned : s.result = some result) :
    Returned handler source writer s result := by
  obtain ⟨stage, ending, complete, rfl⟩ := inv.result result returned
  obtain ⟨empty, -, stopped⟩ := inv.finished stage
  have delivered : s.handled = s.sent := by simpa [empty] using inv.queued
  have ledger := inv.ledger
  rw [stage, delivered] at ledger
  obtain ⟨stopAfter, sends⟩ := inv.sends complete
  refine ⟨delivered, ledger, stopped, ?_, ?_, stopAfter, ?_, ?_, ?_⟩
  · intro tally
    rw [complete, Option.some_inj]
    exact ending.result_eq_ok_iff _ tally
  · intro failure
    simp only [complete, Option.some_inj]
    exact ending.result_eq_error_iff _ failure
  · rw [sends, complete]
  · rw [sends]
  · rw [Watch.run, sends, ledger, stopped]
    rfl

/-- Whatever turns the parties take: captures are handled in the order in which
they were sent, a watch that has returned has handled all of them as one thread
would have, and before that it can go on, but not forever. -/
theorem watch_delivers_in_order {requested : Nat}
    (reached : Reaches handler source (Watch.capacity requested) (initial source writer) s) :
    (s.handled ++ s.queue = s.sent ∧ s.sent <+: source.arrivals ∧
        s.queue.length ≤ Watch.capacity requested) ∧
      (∀ result, s.result = some result → Returned handler source writer s result) ∧
      (s.result = none →
        ∃ t, Step handler source (Watch.capacity requested) s t ∧ t.work < s.work) ∧
      ∀ t, Step handler source (Watch.capacity requested) s t →
        t.work < s.work ∨ t = { s with stopped := true } := by
  have inv := reached.invariant
  have room : 0 < Watch.capacity requested := Nat.lt_of_lt_of_le Nat.zero_lt_one (Nat.le_max_right _ _)
  refine ⟨⟨inv.queued, ?_, inv.bounded⟩, fun _ => inv.returned, inv.can_act room,
    fun _ => Step.uses_work⟩
  rw [← inv.split]
  exact List.prefix_append _ _

/-- The report of a name. -/
def namedArrival (name : Text) : Arrival where
  capture := .report
    { provider := []
      eventId := 3008
      processId := 812
      threadId := 900
      time := ⟨0, 0⟩
      fields := SortedMap.empty.insert Report.queryName (.text name) }
  now := ⟨0, 0⟩

/-- A queue without room is given room for one. The signal goes up while the
first of two captures is on its way, so that one is handled, the other is not
sent, and the crash that would have followed does not happen. A source that has
nothing to send crashes, and is told in its own words or in the fixed ones. -/
theorem watch_delivers_in_order_stopped_or_crashed :
    let writer : Writer := ⟨.room 100, [], []⟩
    let replay (arrivals : List Arrival) (crash : Crash) : Source :=
      ⟨"replay".toList, arrivals, .crashed crash⟩
    let stopped := replay [namedArrival ['a'], namedArrival ['b']] .other
    let worded := replay [] (.text "ring buffer exploded".toList)
    let wordless := replay [] .other
    (∃ s, Reaches .unrestricted stopped (Watch.capacity 0) (initial stopped writer) s ∧
        s.sent = [namedArrival ['a']] ∧ s.ended = some .returned ∧
        ∃ result, s.result = some result ∧ Returned .unrestricted stopped writer s result) ∧
      (∃ s, Reaches .unrestricted worded (Watch.capacity 0) (initial worded writer) s ∧
        s.result = some (.error (.captureThread "ring buffer exploded".toList))) ∧
      ∃ s, Reaches .unrestricted wordless (Watch.capacity 0) (initial wordless writer) s ∧
        s.result = some (.error (.captureThread "capture thread panicked".toList)) := by
  intro writer replay stopped worded wordless
  have crashes (crash : Crash) : ∃ s, Reaches .unrestricted (replay [] crash) (Watch.capacity 0)
      (initial (replay [] crash) writer) s ∧ s.ended = some (.crashed crash) ∧
        ∃ result, s.result = some result ∧
          Returned .unrestricted (replay [] crash) writer s result := by
    have crashed : Reaches .unrestricted (replay [] crash) (Watch.capacity 0)
        (initial (replay [] crash) writer) _ := Reaches.refl.step (.exhaust rfl rfl rfl)
    have finished := (crashed.step (.start rfl)).step (.finish rfl rfl rfl)
    have joined := finished.step (.join rfl rfl rfl)
    exact ⟨_, joined, rfl, _, rfl, (watch_delivers_in_order joined).2.1 _ rfl⟩
  refine ⟨?_, ?_, ?_⟩
  · have looked : Reaches .unrestricted stopped (Watch.capacity 0) (initial stopped writer) _ :=
      Reaches.refl.step (.look rfl rfl rfl rfl)
    have sent := (looked.step .raise).step (.send rfl rfl Nat.zero_lt_one)
    have ended := sent.step (.obey rfl rfl rfl (List.cons_ne_nil _ _))
    have handled := (ended.step (.start rfl)).step (.take rfl rfl)
    have joined := (handled.step (.finish rfl rfl rfl)).step (.join rfl rfl rfl)
    exact ⟨_, joined, rfl, rfl, _, rfl, (watch_delivers_in_order joined).2.1 _ rfl⟩
  · obtain ⟨s, reached, ended, result, told, returned⟩ :=
      crashes (.text "ring buffer exploded".toList)
    rw [(returned.error_iff _).2 (.inr (.inl ⟨_, ended, rfl⟩))] at told
    exact ⟨s, reached, told⟩
  · obtain ⟨s, reached, ended, result, told, returned⟩ := crashes .other
    rw [(returned.error_iff _).2 (.inr (.inr ⟨ended, rfl⟩))] at told
    exact ⟨s, reached, told⟩

end Interleaving
end QueryWatch
