import ImageRetention.Instant
import ImageRetention.Text.Digits

/-
Writing instants: the form of RFC 3339 in UTC, with the fewest of 0, 3, 6 or 9 fraction
digits that are exact, a sign before years outside 0 to 9999, and second 60 for a leap
second.
-/

namespace ImageRetention.Instant

open Text (padded)

/-- A year in at least four digits, with a sign outside 0 to 9999. -/
def yearText (year : Int) : List Char :=
  if 0 ≤ year ∧ year ≤ 9999 then padded 4 year.toNat
  else (if year < 0 then '-' else '+') :: padded 4 year.natAbs

/-- A fraction of a second after a point, in the fewest of 0, 3, 6 or 9 digits. -/
def fractionText (nano : Nat) : List Char :=
  if nano = 0 then []
  else if nano % 1000000 = 0 then '.' :: padded 3 (nano / 1000000)
  else if nano % 1000 = 0 then '.' :: padded 6 (nano / 1000)
  else '.' :: padded 9 nano

/-- An instant in the form of RFC 3339, in UTC. -/
def toChars (t : Instant) : List Char :=
  let date := Calendar.Date.ofDays t.day
  let second := t.second % 60 + (if t.isLeap then 1 else 0)
  yearText date.year ++ '-' :: padded 2 date.month ++ '-' :: padded 2 date.day
    ++ 'T' :: padded 2 (t.second / 3600) ++ ':' :: padded 2 (t.second / 60 % 60)
    ++ ':' :: padded 2 second ++ fractionText (t.nano % nanosPerSecond) ++ ['Z']

/-- An instant in the form of RFC 3339, in UTC. -/
def text (t : Instant) : String :=
  String.ofList t.toChars

end ImageRetention.Instant
