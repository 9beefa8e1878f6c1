/-!
# The calendar

Dates of the proleptic Gregorian calendar against numbers of days since
1 January 1970, in both directions and for every integer. Months are counted
from March inside the computation, so that the leap day is the last day of a
year; four centuries have a fixed number of days.
-/
namespace QueryWatch

/-- A day by year, month from 1 and day from 1. -/
structure Date where
  year : Int
  month : Nat
  day : Nat
  deriving DecidableEq, Repr

namespace Date

def daysPerEra : Int := 146097
def yearsPerEra : Int := 400

/-- Days from 1 March of year 0 to 1 January 1970. -/
def epochShift : Int := 719468

/-- Days from 1 March to the first of the month that comes so many months
later. -/
def monthStart (monthsFromMarch : Int) : Int :=
  (153 * monthsFromMarch + 2) / 5

/-- Days from 1 January 1970. -/
def dayNumber (date : Date) : Int :=
  let year := if date.month ≤ 2 then date.year - 1 else date.year
  let monthsFromMarch := ((date.month + 9) % 12 : Nat)
  let era := year / yearsPerEra
  let yearOfEra := year % yearsPerEra
  let dayOfYear := monthStart monthsFromMarch + date.day - 1
  era * daysPerEra + yearOfEra * 365 + yearOfEra / 4 - yearOfEra / 100 + dayOfYear - epochShift

/-- The date so many days after 1 January 1970. -/
def ofDayNumber (number : Int) : Date :=
  let shifted := number + epochShift
  let era := shifted / daysPerEra
  let dayOfEra := shifted % daysPerEra
  let yearOfEra :=
    (dayOfEra - dayOfEra / 1460 + dayOfEra / 36524 - dayOfEra / 146096) / 365
  let dayOfYear := dayOfEra - (yearOfEra * 365 + yearOfEra / 4 - yearOfEra / 100)
  let monthsFromMarch := (5 * dayOfYear + 2) / 153
  let month := if monthsFromMarch < 10 then monthsFromMarch + 3 else monthsFromMarch - 9
  let year := yearOfEra + era * yearsPerEra
  { year := if month ≤ 2 then year + 1 else year
    month := month.toNat
    day := (dayOfYear - monthStart monthsFromMarch + 1).toNat }

/-- Days since the last Sunday, on the day of that number. -/
def weekday (number : Int) : Int :=
  (number + 4) % 7

def sundayFrom (number : Int) : Int :=
  number + (7 - weekday number) % 7

end Date
end QueryWatch
