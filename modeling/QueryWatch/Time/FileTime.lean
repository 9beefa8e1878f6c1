import QueryWatch.Time.Instant

/-!
# File times in machine words

The instant of a file time as a machine computes it: one step after another, in signed words of
sixty-four bits, where a result outside the word is an overflow and ends the computation. The
nanoseconds are cut to an unsigned word of thirty-two bits at the end. Seconds and nanoseconds
go to a calendar, and where it has no instant for them the clock stands in.
-/
namespace QueryWatch

namespace Word

/-- Whether a signed word can hold an integer. -/
def Holds (n : Int) : Prop :=
  Int64.minValue.toInt ≤ n ∧ n ≤ Int64.maxValue.toInt

instance (n : Int) : Decidable (Holds n) :=
  inferInstanceAs (Decidable (_ ∧ _))

/-- The word of a result, unless it overflows. -/
def ofInt? (n : Int) : Option Int64 :=
  if Holds n then some (Int64.ofInt n) else none

def sub? (x y : Int64) : Option Int64 :=
  ofInt? (x.toInt - y.toInt)

def mul? (x y : Int64) : Option Int64 :=
  ofInt? (x.toInt * y.toInt)

/-- The quotient that leaves no negative remainder. -/
def div? (x y : Int64) : Option Int64 :=
  if y = 0 then none else ofInt? (x.toInt / y.toInt)

/-- The remainder that is not negative, where there is a quotient. -/
def mod? (x y : Int64) : Option Int64 :=
  (div? x y).map fun _ => Int64.ofInt (x.toInt % y.toInt)

/-- The lower half of a word. -/
def low (x : Int64) : UInt32 :=
  x.toUInt64.toUInt32

end Word

/-- Makes an instant of seconds and nanoseconds if it has one. -/
abbrev Calendar := Int64 → UInt32 → Option Instant

namespace Calendar

/-- All instants of the calendar's years are there. -/
def Covers (calendar : Calendar) : Prop :=
  ∀ (seconds : Int64) (nanos : UInt32),
    (Instant.mk seconds.toInt nanos.toNat).inCalendar = true →
      calendar seconds nanos = some ⟨seconds.toInt, nanos.toNat⟩

/-- The instants of the calendar's years and no others. -/
def strict : Calendar := fun seconds nanos =>
  let i : Instant := ⟨seconds.toInt, nanos.toNat⟩
  if i.inCalendar then some i else none

/-- The instant of a file time, unless a step overflows. -/
def ofFileTime? (calendar : Calendar) (clock : Instant) (fileTime : Int64) : Option Instant := do
  let ticks ← Word.sub? fileTime (Int64.ofInt Instant.epochFileTime)
  let seconds ← Word.div? ticks (Int64.ofInt Instant.ticksPerSecond)
  let rest ← Word.mod? ticks (Int64.ofInt Instant.ticksPerSecond)
  let nanos ← Word.mul? rest 100
  return (calendar seconds (Word.low nanos)).getD clock

end Calendar
end QueryWatch
