import QueryWatch.Time.Instant

/-!
# Offsets from universal time

The offset of a place is a step function of time: a first offset, and the
offsets that begin at listed instants. A rule that changes the clocks on a
Sunday of each year is written out up to a last year, so the list has an end,
and the offset that begins last stays for good.
-/
namespace QueryWatch

/-- The offset from universal time, in seconds, as a function of time. -/
structure Offsets where
  first : Int
  /-- Instants in order, each with the offset that begins there. -/
  changes : List (Int × Int) := []
  deriving DecidableEq, Repr

namespace Offsets

def hour : Int := 3600

def offsetAt (offsets : Offsets) (seconds : Int) : Int :=
  offsets.changes.foldl
    (fun offset change => if change.1 ≤ seconds then change.2 else offset) offsets.first

/-- An offset that gives way to another for half-open spans of time. -/
def raised (base other : Int) (spans : List (Int × Int)) : List (Int × Int) :=
  spans.flatMap fun span => [(span.1, other), (span.2, base)]

end Offsets

/-- A yearly change of the clocks to an offset, on the first Sunday on or after
a day of a month, counted in seconds from the start of that Sunday in universal
time. -/
structure SundayChange where
  month : Nat
  earliestDay : Nat
  secondOfDay : Int
  offset : Int
  deriving DecidableEq, Repr

namespace SundayChange

def instant (change : SundayChange) (year : Int) : Int :=
  Date.sundayFrom (Date.dayNumber ⟨year, change.month, change.earliestDay⟩)
    * Instant.secondsPerDay + change.secondOfDay

/-- The last year in which yearly changes are listed. -/
def lastYear : Nat := 2099

/-- Yearly changes, in the order in which they come in a year, from a year
on. -/
def fromYear (firstYear : Nat) (changes : List SundayChange) : List (Int × Int) :=
  (List.range' firstYear (lastYear + 1 - firstYear)).flatMap fun year =>
    changes.map fun change => (change.instant year, change.offset)

end SundayChange
end QueryWatch
