import QueryWatch.Text.Numeral
import QueryWatch.Time.Instant

/-!
# Civil time

Date and clock of an instant at an offset from universal time, and their text.
A leap second is shown as the second after the one it extends, and fractions
are cut to milliseconds. A year outside four digits carries a sign.
-/
namespace QueryWatch

structure Civil where
  date : Date
  hour : Nat
  minute : Nat
  second : Nat
  milli : Nat
  deriving DecidableEq, Repr

namespace Civil
open Numeral

def nanosPerMilli : Nat := 1000000

/-- What a clock so many seconds ahead of universal time shows. -/
def ofInstant (offset : Int) (i : Instant) : Civil :=
  let shown := i.seconds + offset
  let clock := (shown % Instant.secondsPerDay).toNat
  { date := Date.ofDayNumber (shown / Instant.secondsPerDay)
    hour := clock / 3600
    minute := clock / 60 % 60
    second := clock % 60 + i.nanos / Instant.nanosPerSecond
    milli := i.nanos % Instant.nanosPerSecond / nanosPerMilli }

/-- At least four digits, after a sign unless the year lies in 0 to 9999. -/
def yearText (year : Int) : Text :=
  let digits := zeroPadded 4 year.natAbs
  if year < 0 then '-' :: digits
  else if 9999 < year then '+' :: digits
  else digits

/-- Year, month, day and time of day to the second. -/
def toText (c : Civil) : Text :=
  yearText c.date.year ++ ['-'] ++ zeroPadded 2 c.date.month ++ ['-']
    ++ zeroPadded 2 c.date.day ++ [' '] ++ zeroPadded 2 c.hour ++ [':']
    ++ zeroPadded 2 c.minute ++ [':'] ++ zeroPadded 2 c.second

def toTextMillis (c : Civil) : Text :=
  c.toText ++ ['.'] ++ zeroPadded 3 c.milli

end Civil
end QueryWatch
