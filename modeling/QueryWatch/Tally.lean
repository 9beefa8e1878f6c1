import QueryWatch.Admission
import QueryWatch.Sender

/-!
# Outcomes and their tally

Each capture ends in exactly one outcome, and a run counts the captures and the
outcomes of each kind.
-/
namespace QueryWatch

structure Sighting where
  query : Query
  sender : Sender
  deriving DecidableEq, Repr

inductive Outcome where
  /-- It holds no query. -/
  | malformed
  | filtered (reason : Rejection)
  | emitted (sighting : Sighting)
  /-- It was rendered, but not all of it could be written and flushed. -/
  | emitFailed (sighting : Sighting)
  deriving DecidableEq, Repr

namespace Outcome

/-- The sighting that was rendered, written or not. -/
def sighting? : Outcome → Option Sighting
  | .emitted s => some s
  | .emitFailed s => some s
  | _ => none

end Outcome

structure Tally where
  received : Nat := 0
  malformed : Nat := 0
  filtered : Nat := 0
  emitted : Nat := 0
  emitErrors : Nat := 0
  deriving DecidableEq, Repr

namespace Tally

def record (tally : Tally) (outcome : Outcome) : Tally :=
  let counted := { tally with received := tally.received + 1 }
  match outcome with
  | .malformed => { counted with malformed := tally.malformed + 1 }
  | .filtered _ => { counted with filtered := tally.filtered + 1 }
  | .emitted _ => { counted with emitted := tally.emitted + 1 }
  | .emitFailed _ => { counted with emitErrors := tally.emitErrors + 1 }

/-- Each capture is counted once as received and once by its outcome. -/
def Balanced (tally : Tally) : Prop :=
  tally.received = tally.malformed + tally.filtered + tally.emitted + tally.emitErrors

theorem Balanced.record {tally : Tally} (balanced : tally.Balanced) (outcome : Outcome) :
    (tally.record outcome).Balanced := by
  cases outcome <;> simp only [Balanced, Tally.record] at balanced ⊢ <;> omega

end Tally
end QueryWatch
