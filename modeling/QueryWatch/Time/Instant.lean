import QueryWatch.Time.Calendar

/-!
# Instants

A point in time is a whole number of seconds since the start of 1970 and the
nanoseconds after it. Nanoseconds from one thousand million on stand for a leap
second. File times count hundreds of nanoseconds since the start of 1601 in a
signed sixty-four bit word. Their distance to 1970 is computed in such a word
too, so the lowest file times have no instant; every other one has an exact
instant, and the clock would stand in for one outside the calendar.
-/
namespace QueryWatch

structure Instant where
  seconds : Int
  nanos : Nat
  deriving DecidableEq, Repr

namespace Instant

def secondsPerDay : Int := 86400
def nanosPerSecond : Nat := 1000000000

/-- The first and the last year in which every instant has a date. -/
def calendarYears : Int × Int := (-262142, 262142)

def inCalendar (i : Instant) : Bool :=
  i.nanos < nanosPerSecond
    && Date.dayNumber ⟨calendarYears.1, 1, 1⟩ ≤ i.seconds / secondsPerDay
    && i.seconds / secondsPerDay ≤ Date.dayNumber ⟨calendarYears.2, 12, 31⟩

/-- The start of 1970 as a file time. -/
def epochFileTime : Int := 116444736000000000

def ticksPerSecond : Int := 10000000

def ofTicks (ticks : Int) : Instant where
  seconds := ticks / ticksPerSecond
  nanos := (ticks % ticksPerSecond).toNat * 100

/-- The instant of a file time, unless the distance to 1970 overflows. -/
def ofFileTime? (clock : Instant) (fileTime : Int64) : Option Instant :=
  let ticks := fileTime.toInt - epochFileTime
  if ticks < Int64.minValue.toInt then none
  else if (ofTicks ticks).inCalendar then some (ofTicks ticks)
  else some clock

end Instant
end QueryWatch
