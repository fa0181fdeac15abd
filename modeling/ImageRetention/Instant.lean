/-
Instants of time to the nanosecond, in UTC:

* `Calendar`: days counted from 1970-01-01 and dates of the proleptic Gregorian calendar;
* `Instant`: a day, a second of it and a nanosecond, where a nanosecond count beyond one
  second stands for a leap second;
* `Instant.elapsed`: the time between two instants, leap seconds counted where they are
  named.
-/

namespace ImageRetention

/-! ### Days and dates -/

namespace Calendar

/-- Whether a year of the proleptic Gregorian calendar has a 29th of February. -/
def isLeapYear (year : Int) : Bool :=
  year % 4 == 0 && (year % 100 != 0 || year % 400 == 0)

/-- How many days a month has; none for a number that is no month. -/
def daysInMonth (year : Int) (month : Nat) : Nat :=
  match month with
  | 2 => if isLeapYear year then 29 else 28
  | 4 | 6 | 9 | 11 => 30
  | 1 | 3 | 5 | 7 | 8 | 10 | 12 => 31
  | _ => 0

/-- A date: a year, a month from 1 and a day from 1. -/
structure Date where
  year : Int
  month : Nat
  day : Nat
  deriving DecidableEq, Repr

/-- Whether a date exists. -/
def Date.exists (date : Date) : Bool :=
  1 ≤ date.day && date.day ≤ daysInMonth date.year date.month

/-- Days from 1970-01-01 to a date.  Years are counted from March, so that a leap day is the
last of its year, and in eras of 400 years, which all have 146097 days. -/
def Date.toDays (date : Date) : Int :=
  let year := if date.month ≤ 2 then date.year - 1 else date.year
  let era := year / 400
  let yearOfEra := year % 400
  let monthFromMarch := (date.month + 9) % 12
  let dayOfYear : Int := (153 * monthFromMarch + 2) / 5 + date.day - 1
  let dayOfEra := yearOfEra * 365 + yearOfEra / 4 - yearOfEra / 100 + dayOfYear
  era * 146097 + dayOfEra - 719468

/-- The date that lies some days after 1970-01-01. -/
def Date.ofDays (days : Int) : Date :=
  let shifted := days + 719468
  let era := shifted / 146097
  let dayOfEra := (shifted % 146097).toNat
  let yearOfEra :=
    (dayOfEra - dayOfEra / 1460 + dayOfEra / 36524 - dayOfEra / 146096) / 365
  let dayOfYear := dayOfEra - (365 * yearOfEra + yearOfEra / 4 - yearOfEra / 100)
  let monthFromMarch := (5 * dayOfYear + 2) / 153
  let month := if monthFromMarch < 10 then monthFromMarch + 3 else monthFromMarch - 9
  let year : Int := yearOfEra + era * 400
  ⟨if month ≤ 2 then year + 1 else year, month,
    dayOfYear - (153 * monthFromMarch + 2) / 5 + 1⟩

end Calendar

/-! ### Instants -/

/-- Nanoseconds in a second. -/
abbrev nanosPerSecond : Nat := 1000000000

/-- Seconds in a day. -/
abbrev secondsPerDay : Nat := 86400

/-- An instant: a day, a second of that day, and nanoseconds within that second.  A count of
nanoseconds from 10⁹ on lies in the leap second after the last second of a minute. -/
structure Instant where
  /-- Days from 1970-01-01. -/
  day : Int
  /-- Seconds of the day, leap seconds left out. -/
  second : Nat
  /-- Nanoseconds of the second, and of the leap second after it. -/
  nano : Nat
  firstDay_le : -96465292 ≤ day
  le_lastDay : day ≤ 95026236
  second_lt : second < secondsPerDay
  nano_lt : nano < 2 * nanosPerSecond
  leap : nanosPerSecond ≤ nano → second % 60 = 59
  deriving DecidableEq, Repr

namespace Instant

/-- The first day that an instant can have is the first of the year -262143. -/
theorem firstDay_eq : (⟨-262143, 1, 1⟩ : Calendar.Date).toDays = -96465292 := by decide

/-- The last day that an instant can have is the last of the year 262142. -/
theorem lastDay_eq : (⟨262142, 12, 31⟩ : Calendar.Date).toDays = 95026236 := by decide

/-- The instant with given parts, if there is one. -/
def ofParts? (day : Int) (second nano : Nat) : Option Instant :=
  if h : -96465292 ≤ day ∧ day ≤ 95026236 ∧ second < secondsPerDay ∧
      nano < 2 * nanosPerSecond ∧ (nanosPerSecond ≤ nano → second % 60 = 59) then
    some ⟨day, second, nano, h.1, h.2.1, h.2.2.1, h.2.2.2.1, h.2.2.2.2⟩
  else none

/-- Whether an instant lies in a leap second. -/
def isLeap (t : Instant) : Bool :=
  nanosPerSecond ≤ t.nano

/-- Instants in the order of their days, seconds and nanoseconds. -/
instance : LE Instant where
  le s t := s.day < t.day ∨ s.day = t.day ∧
    (s.second < t.second ∨ s.second = t.second ∧ s.nano ≤ t.nano)

instance (s t : Instant) : Decidable (s ≤ t) :=
  inferInstanceAs (Decidable (_ ∨ _))

/-- The leap second to add between two instants, by the seconds of their days: one if the
later second of the day follows an instant in a leap second, minus one the other way round. -/
def leapBetween (later earlier : Instant) : Int :=
  if earlier.second < later.second ∧ earlier.isLeap then 1
  else if later.second < earlier.second ∧ later.isLeap then -1
  else 0

/-- The nanoseconds from the second instant to the first. -/
def elapsed (later earlier : Instant) : Int :=
  ((later.day - earlier.day) * secondsPerDay + ((later.second : Int) - earlier.second)
      + leapBetween later earlier) * nanosPerSecond
    + ((later.nano : Int) - earlier.nano)

/-- Nanoseconds since 1970-01-01, for an instant outside leap seconds. -/
def sinceEpoch (t : Instant) : Int :=
  (t.day * secondsPerDay + t.second) * nanosPerSecond + t.nano

/-- Outside leap seconds the time elapsed is the difference of the times since 1970. -/
theorem elapsed_eq_sub {s t : Instant} (hs : s.isLeap = false) (ht : t.isLeap = false) :
    elapsed s t = s.sinceEpoch - t.sinceEpoch := by
  simp only [elapsed, leapBetween, hs, ht, sinceEpoch]
  simp only [Bool.false_eq_true, and_false, if_false, nanosPerSecond, secondsPerDay]
  omega

end Instant

end ImageRetention
