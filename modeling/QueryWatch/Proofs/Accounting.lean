import Mathlib.Data.List.Forall2
import QueryWatch.Proofs.Handling

/-!
# Accounting of a run

Four observers look at a run: the outcomes, the counters, the list of processes
asked for, and the bytes the writer accepted. One step is counted the same by
all of them, so they agree after any number of steps, whatever mixture of
damaged captures, refusals and faults of the writer occurs.

What the writer does may change before every capture. A run that leaves it as
it is is the run of the library.
-/
namespace QueryWatch

/-- The kinds of outcomes that have a counter. -/
inductive Outcome.Kind where
  | malformed
  | filtered
  | emitted
  | emitFailed
  deriving DecidableEq, Repr

def Outcome.kind : Outcome → Kind
  | .malformed => .malformed
  | .filtered _ => .filtered
  | .emitted _ => .emitted
  | .emitFailed _ => .emitFailed

namespace Tally

/-- The counter of a kind of outcomes. -/
def counter (tally : Tally) : Outcome.Kind → Nat
  | .malformed => tally.malformed
  | .filtered => tally.filtered
  | .emitted => tally.emitted
  | .emitFailed => tally.emitErrors

theorem received_record (tally : Tally) (outcome : Outcome) :
    (tally.record outcome).received = tally.received + 1 := by
  cases outcome <;> rfl

theorem counter_record (tally : Tally) (outcome : Outcome) (kind : Outcome.Kind) :
    (tally.record outcome).counter kind =
      tally.counter kind + if outcome.kind = kind then 1 else 0 := by
  cases outcome <;> cases kind <;> rfl

end Tally

namespace Handler

/-- A capture with what the writer does from then on, where that changes. -/
structure Turn where
  arrival : Arrival
  capacity : Option Capacity := none
  deriving DecidableEq

/-- The ledger with the writer set for a turn. -/
def supply (progress : Progress) (turn : Turn) : Progress :=
  { progress with
    writer := { progress.writer with
      capacity := turn.capacity.getD progress.writer.capacity } }

/-- Handles captures in order, the writer set anew before each. -/
def handleTurns (handler : Handler) (progress : Progress) : List Turn → Progress × List Outcome
  | [] => (progress, [])
  | turn :: rest =>
    let (after, outcome) := handler.handle (supply progress turn) turn.arrival
    let (last, outcomes) := handler.handleTurns after rest
    (last, outcome :: outcomes)

/-- Without changes to the writer the turns are the library's run. -/
theorem handleTurns_unchanged (handler : Handler) (progress : Progress)
    (arrivals : List Arrival) :
    handler.handleTurns progress (arrivals.map ({ arrival := · })) =
      (handler.handleAll progress arrivals, handler.outcomes progress arrivals) := by
  induction arrivals generalizing progress with
  | nil => rfl
  | cons arrival rest ih => simp only [List.map_cons, handleTurns, handleAll, outcomes, ih]; rfl

/-- What a run adds to the ledger, its notices apart. -/
structure Accounts (handler : Handler) (turns : List Turn) (before : Progress)
    (outcomes : List Outcome) (after : Progress) : Prop where
  judged : List.Forall₂ (fun turn => handler.Judges turn.arrival) turns outcomes
  received : after.tally.received = before.tally.received + turns.length
  counted : ∀ kind, after.tally.counter kind =
    before.tally.counter kind + (outcomes.map Outcome.kind).count kind
  balanced : before.tally.Balanced → after.tally.Balanced
  asked : after.asked = before.asked ++ outcomes.filterMap Outcome.asked?
  accepted : ∃ parts, List.Forall₂ (Leaves handler.display) outcomes parts ∧
    after.writer.accepted = before.writer.accepted ++ parts.flatten

theorem Accounts.refl (handler : Handler) (progress : Progress) :
    handler.Accounts [] progress [] progress where
  judged := .nil
  received := rfl
  counted := fun _ => rfl
  balanced := id
  asked := (List.append_nil _).symm
  accepted := ⟨[], .nil, (List.append_nil _).symm⟩

/-- One step in front of a run. -/
theorem Accounts.cons {handler : Handler} {turn : Turn} {turns : List Turn}
    {before between after : Progress} {outcome : Outcome} {outcomes : List Outcome}
    (judges : handler.Judges turn.arrival outcome)
    (effect : handler.Effect (supply before turn) outcome between)
    (run : handler.Accounts turns between outcomes after) :
    handler.Accounts (turn :: turns) before (outcome :: outcomes) after where
  judged := .cons judges run.judged
  received := by
    have step : between.tally.received = before.tally.received + 1 :=
      effect.tally ▸ Tally.received_record _ _
    rw [run.received, step, List.length_cons]
    omega
  counted := fun kind => by
    have step := effect.tally ▸ Tally.counter_record before.tally outcome kind
    rw [run.counted, step, List.map_cons, List.count_cons]
    simp only [beq_iff_eq]
    omega
  balanced := fun balanced => run.balanced (effect.tally ▸ balanced.record outcome)
  asked := by
    rw [run.asked, effect.asked, List.append_assoc]
    cases asked : outcome.asked? <;> simp [supply, asked]
  accepted := by
    obtain ⟨part, leaves, first⟩ := effect.accepted
    obtain ⟨parts, others, last⟩ := run.accepted
    refine ⟨part :: parts, .cons leaves others, ?_⟩
    rw [last, first, List.append_assoc, List.flatten_cons]
    rfl

theorem handleTurns_accounts (handler : Handler) (progress : Progress) (turns : List Turn) :
    handler.Accounts turns progress (handler.handleTurns progress turns).2
      (handler.handleTurns progress turns).1 := by
  induction turns generalizing progress with
  | nil => exact .refl handler progress
  | cons turn rest ih =>
    exact .cons (handler.handle_judges _ turn.arrival) (handler.handle_effect _ turn.arrival)
      (ih (handler.handle (supply progress turn) turn.arrival).1)

/-- After any run from an empty ledger the counters, the processes asked for and
the accepted bytes are those of the outcomes, in order. -/
theorem run_is_accounted (handler : Handler) (writer : Writer) (turns : List Turn) :
    let (after, outcomes) := handler.handleTurns { writer := writer } turns
    List.Forall₂ (fun turn => handler.Judges turn.arrival) turns outcomes ∧
      after.tally.received = turns.length ∧
      after.tally.received = after.tally.malformed + after.tally.filtered
        + after.tally.emitted + after.tally.emitErrors ∧
      (∀ kind, after.tally.counter kind = (outcomes.map Outcome.kind).count kind) ∧
      after.asked = outcomes.filterMap Outcome.asked? ∧
      ∃ parts, List.Forall₂ (Leaves handler.display) outcomes parts ∧
        after.writer.accepted = writer.accepted ++ parts.flatten := by
  have run := handler.handleTurns_accounts { writer := writer } turns
  refine ⟨run.judged, ?_, run.balanced rfl, ?_, run.asked, run.accepted⟩
  · simpa using run.received
  · intro kind
    rw [run.counted]
    cases kind <;> exact Nat.zero_add _

end Handler
end QueryWatch
