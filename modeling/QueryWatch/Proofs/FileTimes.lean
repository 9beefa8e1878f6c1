import Mathlib.Algebra.Order.Ring.Int
import QueryWatch.Time.FileTime

/-!
# File times and their instants

The distance of a file time to 1970 is the one step of its conversion that can overflow, and it
does so below a least file time only. Each later step has small numbers: the quotient by the
ticks of a second is nearer to zero than its dividend, the remainder is below the divisor, and a
hundred times the remainder fits a word of half the width. So the conversion in words is the one
over the integers.

The seconds that come out lie far inside of the years of the calendar, and the clock is never
asked. The instant is exact, to a tick: quotient and remainder make up the distance again, also
where it is negative, since the remainder never is. Exact instants are in the order of their file
times.
-/
namespace QueryWatch

namespace Word

variable {n : Int} {x y : Int64}

theorem holds_iff : Holds n ↔ -9223372036854775808 ≤ n ∧ n ≤ 9223372036854775807 :=
  Iff.rfl

theorem holds_toInt (x : Int64) : Holds x.toInt :=
  ⟨x.minValue_le_toInt, x.toInt_le⟩

theorem toInt_ofInt_of_holds (holds : Holds n) : (Int64.ofInt n).toInt = n := by
  obtain ⟨low, high⟩ := holds_iff.1 holds
  exact Int64.toInt_ofInt_of_le (by omega) (by omega)

theorem ofInt?_eq_none_iff : ofInt? n = none ↔ ¬Holds n := by
  unfold ofInt?
  split
  next holds => simp [holds]
  next fails => simp [fails]

theorem exists_ofInt? (holds : Holds n) : ∃ x, ofInt? n = some x ∧ x.toInt = n :=
  ⟨_, if_pos holds, toInt_ofInt_of_holds holds⟩

theorem ne_zero_of_pos (positive : 0 < y.toInt) : y ≠ 0 := by
  rintro rfl
  exact absurd positive (by decide)

/-- A quotient is no farther from zero than its dividend. -/
theorem holds_ediv (x : Int64) (positive : 0 < y.toInt) : Holds (x.toInt / y.toInt) := by
  obtain ⟨low, high⟩ := holds_toInt x
  rcases le_or_gt 0 x.toInt with nonneg | negative
  · have below := Int.ediv_nonneg nonneg (Int.le_of_lt positive)
    have above : x.toInt / y.toInt ≤ x.toInt := Int.ediv_le_self _ nonneg
    exact ⟨Int.le_trans (by decide) below, Int.le_trans above high⟩
  · -- The quotient is rounded away from zero, yet not past the dividend.
    have above : x.toInt / y.toInt < 0 := Int.ediv_neg_of_neg_of_pos negative positive
    have below : x.toInt ≤ x.toInt / y.toInt := by
      apply Int.le_ediv_of_mul_le positive
      exact mul_le_of_one_le_right (Int.le_of_lt negative) positive
    exact ⟨Int.le_trans low below, Int.le_trans (Int.le_of_lt above) (by decide)⟩

theorem div?_of_pos (x : Int64) (positive : 0 < y.toInt) :
    ∃ q, div? x y = some q ∧ q.toInt = x.toInt / y.toInt := by
  rw [div?, if_neg (ne_zero_of_pos positive)]
  exact exists_ofInt? (holds_ediv x positive)

theorem mod?_of_pos (x : Int64) (positive : 0 < y.toInt) :
    ∃ r, mod? x y = some r ∧ r.toInt = x.toInt % y.toInt := by
  obtain ⟨q, quotient, -⟩ := div?_of_pos x positive
  have nonneg := Int.emod_nonneg x.toInt (Int.ne_of_gt positive)
  have small := Int.emod_lt_of_pos x.toInt positive
  have holds : Holds (x.toInt % y.toInt) :=
    ⟨Int.le_trans (by decide) nonneg, Int.le_trans (Int.le_of_lt small) y.toInt_le⟩
  rw [mod?, quotient]
  exact ⟨_, rfl, toInt_ofInt_of_holds holds⟩

theorem toNat_low (nonneg : 0 ≤ x.toInt) (small : x.toInt < 4294967296) :
    (low x).toNat = x.toInt.toNat := by
  have word : x.toUInt64.toNat = x.toInt.toNat :=
    Int64.toNat_toUInt64_of_le (Int64.le_iff_toInt_le.2 nonneg)
  rw [low, UInt64.toNat_toUInt32, word, Nat.mod_eq_of_lt (by omega)]

/-- The nanoseconds of less than a second of ticks fit half a word. -/
theorem mul?_hundred (nonneg : 0 ≤ x.toInt) (small : x.toInt < 10000000) :
    ∃ y, mul? x 100 = some y ∧ (low y).toNat = x.toInt.toNat * 100 := by
  have hundred : (100 : Int64).toInt = 100 := by decide
  have holds : Holds (x.toInt * 100) := holds_iff.2 (by omega)
  obtain ⟨y, product, exact_product⟩ := exists_ofInt? holds
  refine ⟨y, by rw [mul?, hundred, product], ?_⟩
  rw [toNat_low (by omega) (by omega), exact_product]
  omega

end Word

namespace Instant

/-- Ticks from the start of 1970 to a file time. -/
def distance (fileTime : Int64) : Int :=
  fileTime.toInt - epochFileTime

/-- The first file time whose distance to 1970 fits a word. -/
def leastFileTime : Int := -9106927300854775808

variable {fileTime : Int64} {ticks : Int}

/-- The distance is too long on one side only, since 1970 comes after the start of file times. -/
theorem distance_le (fileTime : Int64) : distance fileTime ≤ Int64.maxValue.toInt :=
  Int.le_trans (Int.sub_le_self _ (by decide)) fileTime.toInt_le

theorem holds_distance_iff : Word.Holds (distance fileTime) ↔ leastFileTime ≤ fileTime.toInt := by
  have shift : Int64.minValue.toInt = leastFileTime - epochFileTime := by decide
  constructor
  · rintro ⟨low, -⟩
    rw [shift] at low
    exact Int.le_of_sub_le_sub_right low
  · intro fits
    refine ⟨?_, distance_le fileTime⟩
    rw [shift]
    exact Int.sub_le_sub_right fits _

theorem nanos_ofTicks_lt (ticks : Int) : (ofTicks ticks).nanos < nanosPerSecond := by
  simp only [ofTicks, ticksPerSecond, nanosPerSecond]
  omega

/-- No distance that fits a word leads out of the calendar. -/
theorem inCalendar_ofTicks (holds : Word.Holds ticks) : (ofTicks ticks).inCalendar = true := by
  have first : Date.dayNumber ⟨calendarYears.1, 1, 1⟩ = -96464927 := by decide
  have last : Date.dayNumber ⟨calendarYears.2, 12, 31⟩ = 95026236 := by decide
  have days : -96464927 ≤ (ofTicks ticks).seconds / secondsPerDay ∧
      (ofTicks ticks).seconds / secondsPerDay ≤ 95026236 := by
    have bounds := Word.holds_iff.1 holds
    simp only [ofTicks, ticksPerSecond, secondsPerDay]
    omega
  simp only [inCalendar, first, last, nanos_ofTicks_lt, days, decide_true, Bool.and_self]

theorem ofFileTime?_eq (clock : Instant) (fileTime : Int64) :
    ofFileTime? clock fileTime =
      if distance fileTime < Int64.minValue.toInt then none
      else if (ofTicks (distance fileTime)).inCalendar then some (ofTicks (distance fileTime))
      else some clock :=
  rfl

theorem ofFileTime?_of_holds (clock : Instant) (holds : Word.Holds (distance fileTime)) :
    ofFileTime? clock fileTime = some (ofTicks (distance fileTime)) := by
  rw [ofFileTime?_eq, if_neg (Int.not_lt.2 holds.1), if_pos (inCalendar_ofTicks holds)]

theorem ofFileTime?_eq_none_iff (clock : Instant) :
    ofFileTime? clock fileTime = none ↔ fileTime.toInt < leastFileTime := by
  rw [← Int.not_le, ← holds_distance_iff]
  constructor
  · intro overflow holds
    rw [ofFileTime?_of_holds clock holds] at overflow
    cases overflow
  · intro overflow
    have short : distance fileTime < Int64.minValue.toInt :=
      Int.not_le.1 fun fits => overflow ⟨fits, distance_le fileTime⟩
    rw [ofFileTime?_eq, if_pos short]

/-- An instant as far from 1970 as a file time, to the tick. -/
structure Matches (i : Instant) (fileTime : Int64) : Prop where
  nanos_lt : i.nanos < nanosPerSecond
  hundreds : 100 ∣ i.nanos
  ticks : i.seconds * ticksPerSecond + (i.nanos / 100 : Nat) = distance fileTime

theorem matches_ofTicks (fileTime : Int64) : (ofTicks (distance fileTime)).Matches fileTime where
  nanos_lt := nanos_ofTicks_lt _
  hundreds := Nat.dvd_mul_left _ _
  ticks := by
    have nonneg := Int.emod_nonneg (distance fileTime) (show ticksPerSecond ≠ 0 by decide)
    simp only [ofTicks]
    rw [Nat.mul_div_cancel _ (by decide), Int.toNat_of_nonneg nonneg, Int.ediv_mul_add_emod]

/-- Earlier in time. -/
def Before (i j : Instant) : Prop :=
  i.seconds < j.seconds ∨ i.seconds = j.seconds ∧ i.nanos < j.nanos

namespace Matches

variable {i j : Instant} {other : Int64}

theorem before_iff (first : i.Matches fileTime) (second : j.Matches other) :
    i.Before j ↔ fileTime < other := by
  -- Seconds and hundreds of nanoseconds are the digits of the ticks.
  obtain ⟨small, ⟨a, hundreds⟩, ticks⟩ := first
  obtain ⟨other_small, ⟨b, other_hundreds⟩, other_ticks⟩ := second
  rw [Int64.lt_iff_toInt_lt]
  unfold Before
  unfold nanosPerSecond at small other_small
  unfold distance ticksPerSecond at ticks other_ticks
  omega

theorem eq_iff (first : i.Matches fileTime) (second : j.Matches other) :
    i = j ↔ fileTime = other := by
  obtain ⟨s, n⟩ := i
  obtain ⟨t, m⟩ := j
  obtain ⟨small, ⟨a, hundreds⟩, ticks⟩ := first
  obtain ⟨other_small, ⟨b, other_hundreds⟩, other_ticks⟩ := second
  rw [← Int64.toInt_inj, mk.injEq]
  unfold nanosPerSecond at small other_small
  unfold distance ticksPerSecond at ticks other_ticks
  simp only at *
  omega

end Matches

end Instant

namespace Calendar

variable (calendar : Calendar) (clock : Instant) {fileTime : Int64}

open Instant

theorem sub?_epoch (fileTime : Int64) :
    Word.sub? fileTime (Int64.ofInt epochFileTime) = Word.ofInt? (distance fileTime) := by
  have epoch : (Int64.ofInt epochFileTime).toInt = epochFileTime := by decide
  rw [Word.sub?, epoch, distance]

/-- Where the distance fits a word, so does all that follows from it. -/
theorem ofFileTime?_of_holds (holds : Word.Holds (distance fileTime)) :
    ∃ seconds nanos,
      calendar.ofFileTime? clock fileTime = some ((calendar seconds nanos).getD clock) ∧
        ofTicks (distance fileTime) = ⟨seconds.toInt, nanos.toNat⟩ := by
  have perSecond : (Int64.ofInt ticksPerSecond).toInt = ticksPerSecond := by decide
  have positive : 0 < (Int64.ofInt ticksPerSecond).toInt := by decide
  obtain ⟨ticks, subtracted, ticks_eq⟩ := Word.exists_ofInt? holds
  obtain ⟨seconds, divided, seconds_eq⟩ := Word.div?_of_pos ticks positive
  obtain ⟨rest, left, rest_eq⟩ := Word.mod?_of_pos ticks positive
  rw [perSecond, ticks_eq] at seconds_eq rest_eq
  have nonneg : 0 ≤ rest.toInt := rest_eq ▸ Int.emod_nonneg _ (by decide)
  have small : rest.toInt < ticksPerSecond := rest_eq ▸ Int.emod_lt_of_pos _ (by decide)
  obtain ⟨nanos, multiplied, nanos_eq⟩ := Word.mul?_hundred nonneg small
  refine ⟨seconds, Word.low nanos, ?_, ?_⟩
  · rw [ofFileTime?, sub?_epoch, subtracted]
    simp only [Option.bind_eq_bind, Option.bind_some, divided, left, multiplied, Option.pure_def]
  · rw [nanos_eq, rest_eq, seconds_eq]
    rfl

theorem ofFileTime?_eq_none_iff :
    calendar.ofFileTime? clock fileTime = none ↔ fileTime.toInt < leastFileTime := by
  rw [← Int.not_le, ← holds_distance_iff]
  constructor
  · intro overflow holds
    obtain ⟨seconds, nanos, converted, -⟩ := calendar.ofFileTime?_of_holds clock holds
    rw [converted] at overflow
    cases overflow
  · intro overflow
    rw [ofFileTime?, sub?_epoch, Word.ofInt?_eq_none_iff.2 overflow]
    rfl

/-- The conversion in words is the one over the integers. -/
theorem Covers.ofFileTime?_eq {calendar : Calendar} (covers : calendar.Covers) :
    calendar.ofFileTime? clock fileTime = Instant.ofFileTime? clock fileTime := by
  by_cases holds : Word.Holds (distance fileTime)
  · obtain ⟨seconds, nanos, converted, made⟩ := calendar.ofFileTime?_of_holds clock holds
    have there : calendar seconds nanos = some (ofTicks (distance fileTime)) := by
      have inside := inCalendar_ofTicks holds
      rw [made] at inside ⊢
      exact covers seconds nanos inside
    rw [converted, there, Instant.ofFileTime?_of_holds clock holds]
    rfl
  · have least : fileTime.toInt < leastFileTime :=
      Int.not_le.1 fun fits => holds (holds_distance_iff.2 fits)
    rw [(calendar.ofFileTime?_eq_none_iff clock).2 least,
      (Instant.ofFileTime?_eq_none_iff clock).2 least]

theorem covers_strict : strict.Covers :=
  fun _ _ inside => if_pos inside

end Calendar

namespace Instant

/-- A file time whose distance to 1970 fits a word has an instant, which matches it to the tick.
Words and integers give the same, and no clock makes a difference. Earlier file times have
earlier instants, and different ones have different instants. -/
theorem ofFileTime?_is_exact_and_ordered {calendar : Calendar} (covers : calendar.Covers)
    {fileTime : Int64} (holds : Word.Holds (distance fileTime)) :
    ∃ i : Instant,
      (∀ clock, ofFileTime? clock fileTime = some i ∧
        calendar.ofFileTime? clock fileTime = some i) ∧
      i.Matches fileTime ∧
      ∀ (clock : Instant) (other : Int64) (j : Instant), ofFileTime? clock other = some j →
        (i.Before j ↔ fileTime < other) ∧ (i = j ↔ fileTime = other) := by
  refine ⟨ofTicks (distance fileTime), fun clock => ?_, matches_ofTicks fileTime, ?_⟩
  · have made := ofFileTime?_of_holds clock holds
    exact ⟨made, (covers.ofFileTime?_eq clock).trans made⟩
  · intro clock other j made
    have other_holds : Word.Holds (distance other) := by
      rw [holds_distance_iff, ← Int.not_lt, ← ofFileTime?_eq_none_iff clock, made]
      nofun
    rw [ofFileTime?_of_holds clock other_holds] at made
    obtain rfl := Option.some.inj made
    have first := matches_ofTicks fileTime
    have second := matches_ofTicks other
    exact ⟨first.before_iff second, first.eq_iff second⟩

/-- The last tick before 1601, and the start of that year. -/
theorem ofFileTime?_is_exact_and_ordered_around_1601 :
    let last : Instant := ⟨-11644473601, 999999900⟩
    let start : Instant := ⟨-11644473600, 0⟩
    Calendar.strict.Covers ∧ Word.Holds (distance (-1)) ∧
      (∀ clock, ofFileTime? clock (-1) = some last ∧
        Calendar.strict.ofFileTime? clock (-1) = some last) ∧
      last.Matches (-1) ∧ ofFileTime? last 0 = some start ∧ last.Before start ∧ last ≠ start := by
  intro last start
  have holds : Word.Holds (distance (-1)) := by decide
  obtain ⟨i, made, exactly, ordered⟩ :=
    ofFileTime?_is_exact_and_ordered Calendar.covers_strict holds
  have shown : ofFileTime? last (-1) = some last := by decide +kernel
  obtain rfl : last = i := Option.some.inj (shown.symm.trans (made last).1)
  have later : ofFileTime? last 0 = some start := by decide +kernel
  obtain ⟨before, same⟩ := ordered last 0 start later
  exact ⟨Calendar.covers_strict, holds, made, exactly, later, before.2 (by decide),
    fun equal => absurd (same.1 equal) (by decide)⟩

end Instant
end QueryWatch
