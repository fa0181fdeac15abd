import Mathlib.Tactic
import ImageRetention.CommandLine
import ImageRetention.Instant

/-!
Spans of time in machine words.

* `Span`: seconds and the nanoseconds after them, no longer than the longest duration either way;
* `Span.ofParts?`, `Span.ofDays?`, `Span.add?`: spans from their parts, from days and from other
  spans, where any step may go out of range;
* `le_iff_count_le`, `add?_eq_some_iff`: spans are compared and added as the nanoseconds in them;
* `exists_ofDays?_iff`: just the numbers of days within the longest duration are in range;
* `Instant.span?`: the span between two instants, by days and by times of day;
* `exists_span?`: it is never out of range, and is the time elapsed.
-/

namespace ImageRetention

open CommandLine (longestMillis millisPerDay)

/-- A number, if it is one of 64 bits with a sign. -/
def word? (n : Int) : Option Int :=
  if -Int.pow 2 63 ≤ n ∧ n < Int.pow 2 63 then some n else none

lemma word?_of_bounds {n : Int} (hlow : -9223372036854775808 ≤ n)
    (hhigh : n < 9223372036854775808) : word? n = some n := if_pos ⟨hlow, hhigh⟩

/-- Nanoseconds in a millisecond. -/
abbrev nanosPerMilli : Nat := 1000000

/-- A span of time, which may be negative: seconds, and the nanoseconds after them. -/
structure Span where
  /-- The seconds, rounded down. -/
  seconds : Int
  /-- The nanoseconds after those seconds. -/
  nanos : Nat
  nanos_lt : nanos < nanosPerSecond
  shortest_le : -longestMillis * nanosPerMilli ≤ seconds * nanosPerSecond + nanos
  le_longest : seconds * nanosPerSecond + nanos ≤ longestMillis * nanosPerMilli
  deriving DecidableEq

namespace Span

variable {s t span : Span} {seconds days : Int} {nanos : Nat}

/-- The nanoseconds in a span. -/
def count (span : Span) : Int := span.seconds * nanosPerSecond + span.nanos

/-- The span with given parts, if there is one. -/
def ofParts? (seconds : Int) (nanos : Nat) : Option Span :=
  if h : nanos < nanosPerSecond ∧
      -longestMillis * nanosPerMilli ≤ seconds * nanosPerSecond + nanos ∧
      seconds * nanosPerSecond + nanos ≤ longestMillis * nanosPerMilli then
    some ⟨seconds, nanos, h.1, h.2.1, h.2.2⟩
  else none

/-- A number of days as a span, by way of its seconds. -/
def ofDays? (days : Int) : Option Span := do
  let seconds ← word? (days * secondsPerDay)
  ofParts? seconds 0

/-- The sum of two spans: a full second of nanoseconds is carried. -/
def add? (s t : Span) : Option Span := do
  let seconds ← word? (s.seconds + t.seconds)
  if s.nanos + t.nanos < nanosPerSecond then
    ofParts? seconds (s.nanos + t.nanos)
  else do
    let carried ← word? (seconds + 1)
    ofParts? carried (s.nanos + t.nanos - nanosPerSecond)

/-- Spans in the order of their seconds and nanoseconds. -/
instance : LE Span where
  le s t := s.seconds < t.seconds ∨ s.seconds = t.seconds ∧ s.nanos ≤ t.nanos

instance (s t : Span) : Decidable (s ≤ t) :=
  inferInstanceAs (Decidable (_ ∨ _))

lemma longestMillis_eq : longestMillis = 9223372036854775807 := rfl

lemma millisPerDay_eq : millisPerDay = 86400000 := rfl

/-- Spans are compared as the nanoseconds in them. -/
lemma le_iff_count_le : s ≤ t ↔ s.count ≤ t.count := by
  have hs := s.nanos_lt
  have ht := t.nanos_lt
  change (s.seconds < t.seconds ∨ s.seconds = t.seconds ∧ s.nanos ≤ t.nanos) ↔ _
  simp only [count, nanosPerSecond] at *
  omega

lemma ofParts?_eq_some_iff :
    ofParts? seconds nanos = some span ↔ span.seconds = seconds ∧ span.nanos = nanos := by
  constructor
  · intro h
    rw [ofParts?] at h
    split at h
    · cases h
      exact ⟨rfl, rfl⟩
    · cases h
  · rintro ⟨rfl, rfl⟩
    exact dif_pos ⟨span.nanos_lt, span.shortest_le, span.le_longest⟩

/-- The seconds of a span are far from the bounds of a word. -/
lemma seconds_bounds (span : Span) :
    -9223372036854776 ≤ span.seconds ∧ span.seconds ≤ 9223372036854775 := by
  have hlow := span.shortest_le
  have hhigh := span.le_longest
  have hnanos := span.nanos_lt
  simp only [longestMillis_eq, nanosPerMilli, nanosPerSecond] at *
  omega

lemma ofDays?_eq_some_iff :
    ofDays? days = some span ↔ span.seconds = days * secondsPerDay ∧ span.nanos = 0 := by
  rw [ofDays?]
  constructor
  · intro h
    obtain ⟨seconds, hword, hparts⟩ := Option.bind_eq_some_iff.mp h
    obtain ⟨-, rfl⟩ : _ ∧ days * (secondsPerDay : Int) = seconds := by
      simpa [word?] using hword
    exact ofParts?_eq_some_iff.mp hparts
  · rintro ⟨hseconds, hnanos⟩
    have hbounds := span.seconds_bounds
    rw [← hseconds, word?_of_bounds (by omega) (by omega)]
    exact ofParts?_eq_some_iff.mpr ⟨rfl, hnanos⟩

/-- Just the numbers of days within the longest duration are in range. -/
lemma exists_ofDays?_iff :
    (∃ span, ofDays? days = some span) ↔
      -longestMillis ≤ days * millisPerDay ∧ days * millisPerDay ≤ longestMillis := by
  simp only [ofDays?_eq_some_iff]
  constructor
  · rintro ⟨span, hseconds, hnanos⟩
    have hlow := span.shortest_le
    have hhigh := span.le_longest
    simp only [hseconds, hnanos, longestMillis_eq, millisPerDay_eq, nanosPerMilli, nanosPerSecond,
      secondsPerDay] at *
    omega
  · rintro ⟨hlow, hhigh⟩
    simp only [longestMillis_eq, millisPerDay_eq] at hlow hhigh
    refine ⟨⟨days * secondsPerDay, 0, by decide, ?_, ?_⟩, rfl, rfl⟩ <;>
      · simp only [longestMillis_eq, nanosPerMilli, nanosPerSecond, secondsPerDay]
        omega

/-- Every number of nanoseconds within the longest duration is that of a span. -/
lemma exists_count_eq {n : Int} (hlow : -longestMillis * nanosPerMilli ≤ n)
    (hhigh : n ≤ longestMillis * nanosPerMilli) : ∃ span : Span, span.count = n := by
  have hlt : (n % nanosPerSecond).toNat < nanosPerSecond := by
    simp only [nanosPerSecond]
    omega
  have hparts : n / nanosPerSecond * nanosPerSecond + ((n % nanosPerSecond).toNat : Int) = n := by
    simp only [nanosPerSecond]
    omega
  exact ⟨⟨n / nanosPerSecond, (n % nanosPerSecond).toNat, hlt, by rwa [hparts], by rwa [hparts]⟩,
    hparts⟩

/-- A sum of spans is that of the nanoseconds in them. -/
lemma add?_eq_some_iff : s.add? t = some span ↔ span.count = s.count + t.count := by
  have hs := s.seconds_bounds
  have ht := t.seconds_bounds
  have hnanos := span.nanos_lt
  have hsnanos := s.nanos_lt
  have htnanos := t.nanos_lt
  rw [add?, word?_of_bounds (by omega) (by omega), Option.bind_eq_bind, Option.bind_some]
  split
  · rw [ofParts?_eq_some_iff]
    simp only [count, nanosPerSecond] at *
    omega
  · rw [word?_of_bounds (by omega) (by omega), Option.bind_some, ofParts?_eq_some_iff]
    simp only [count, nanosPerSecond] at *
    omega

end Span

namespace Instant

/-- The span from the second instant to the first: that of the days, and that of the times of day
with the nanoseconds rounded down to seconds. -/
def span? (later earlier : Instant) : Option Span := do
  let days ← word? (later.day - earlier.day)
  let ofDates ← Span.ofDays? days
  let nanos : Int := (later.nano : Int) - earlier.nano
  let ofTimes ← Span.ofParts?
    ((later.second : Int) - earlier.second + leapBetween later earlier + nanos / nanosPerSecond)
    (nanos % nanosPerSecond).toNat
  ofDates.add? ofTimes

variable (later earlier : Instant)

lemma leapBetween_bounds : -1 ≤ leapBetween later earlier ∧ leapBetween later earlier ≤ 1 := by
  rw [leapBetween]
  split
  · decide
  · split <;> decide

/-- The days between two instants are far within the longest duration. -/
lemma days_bounds : -191491528 ≤ later.day - earlier.day ∧
    later.day - earlier.day ≤ 191491528 := by
  have hlater := later.firstDay_le
  have hlater' := later.le_lastDay
  have hearlier := earlier.firstDay_le
  have hearlier' := earlier.le_lastDay
  omega

/-- Without the days between them, two instants are less than two days apart. -/
lemma elapsed_bounds_of_days :
    (later.day - earlier.day - 2) * 86400000000000 ≤ elapsed later earlier ∧
      elapsed later earlier ≤ (later.day - earlier.day + 2) * 86400000000000 := by
  have hleap := leapBetween_bounds later earlier
  have hlater := later.second_lt
  have hearlier := earlier.second_lt
  have hlater' := later.nano_lt
  have hearlier' := earlier.nano_lt
  simp only [elapsed, nanosPerSecond, secondsPerDay] at *
  omega

/-- The span between two instants is never out of range, and is the time elapsed. -/
theorem exists_span? : ∃ span, later.span? earlier = some span ∧
    span.count = elapsed later earlier := by
  have hdays := days_bounds later earlier
  have htimes := elapsed_bounds_of_days later earlier
  obtain ⟨ofDates, hdates⟩ : ∃ span, Span.ofDays? (later.day - earlier.day) = some span := by
    rw [Span.exists_ofDays?_iff, Span.longestMillis_eq, Span.millisPerDay_eq]
    omega
  obtain ⟨hseconds, hnanos⟩ := Span.ofDays?_eq_some_iff.mp hdates
  simp only [secondsPerDay] at hseconds
  obtain ⟨ofTimes, hrest⟩ : ∃ span : Span, span.count = elapsed later earlier - ofDates.count := by
    refine Span.exists_count_eq ?_ ?_ <;>
      · simp only [Span.count, Span.longestMillis_eq, nanosPerMilli, nanosPerSecond]
        omega
  obtain ⟨span, hspan⟩ : ∃ span : Span, span.count = elapsed later earlier := by
    refine Span.exists_count_eq ?_ ?_ <;>
      · simp only [Span.longestMillis_eq, nanosPerMilli]
        omega
  refine ⟨span, ?_, hspan⟩
  rw [span?, word?_of_bounds (by omega) (by omega), Option.bind_eq_bind, Option.bind_some, hdates,
    Option.bind_eq_bind, Option.bind_some, Option.bind_eq_some_iff]
  refine ⟨ofTimes, Span.ofParts?_eq_some_iff.mpr ?_, Span.add?_eq_some_iff.mpr (by omega)⟩
  have hlt := ofTimes.nanos_lt
  simp only [Span.count, elapsed, nanosPerSecond, secondsPerDay] at *
  omega

end Instant

end ImageRetention
