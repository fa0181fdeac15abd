import Mathlib.Tactic
import ImageRetention.Manifest.Listing
import ImageRetention.Retention
import ImageRetention.Text.Utf8

/-!
Ages and the order of instants.

* `elapsed_add_le`: times elapsed add up, but for a second;
* `Instant.ToldApart`: no leap second is involved, or at least a second lies between two
  instants;
* `elapsed_le_of_toldApart`, `elapsed_le_elapsed_of_toldApart`: then the earlier one of two
  manifests has the greater age, and a manifest grows older;
* `garbage_in_order_of_age`: a manifest is garbage with a younger one, and stays garbage, where
  instants are told apart; elsewhere only a manifest within two seconds of the minimum age is out
  of order;
* `garbage_out_of_order`: an older manifest that is kept beside a younger one that is garbage.

A leap second is counted by the seconds of the day, even between different days.  So one that
lies before midnight can count or not count for instants that are close to each other.
-/

namespace ImageRetention

namespace Instant

variable {earlier later other : Instant}

/-! ### Times elapsed -/

lemma le_iff {s t : Instant} : s ≤ t ↔ s.day < t.day ∨ s.day = t.day ∧
    (s.second < t.second ∨ s.second = t.second ∧ s.nano ≤ t.nano) := Iff.rfl

lemma elapsed_eq (later earlier : Instant) :
    elapsed later earlier =
      later.sinceEpoch - earlier.sinceEpoch + leapBetween later earlier * nanosPerSecond := by
  simp only [elapsed, sinceEpoch, nanosPerSecond, secondsPerDay]
  omega

/-- By way of a third instant at most one more leap second is counted. -/
lemma leapBetween_add_le (s t u : Instant) :
    leapBetween s t + leapBetween t u ≤ leapBetween s u + 1 := by
  simp only [leapBetween]
  grind

/-- Times elapsed add up, but for a second. -/
lemma elapsed_add_le (s t u : Instant) :
    elapsed s t + elapsed t u ≤ elapsed s u + nanosPerSecond := by
  have hleap := leapBetween_add_le s t u
  rw [elapsed_eq s t, elapsed_eq t u, elapsed_eq s u]
  simp only [nanosPerSecond]
  omega

/-- In the order of instants a leap second stands before the second that it overlaps. -/
lemma sinceEpoch_lt_of_le (h : earlier ≤ later) :
    earlier.sinceEpoch < later.sinceEpoch + nanosPerSecond := by
  have hsecond := earlier.second_lt
  have hnano := earlier.nano_lt
  rw [le_iff] at h
  simp only [sinceEpoch, nanosPerSecond, secondsPerDay] at *
  omega

/-- A leap second is taken off between two instants only if a day has begun between them, and
then the second of the two is not among the first of its day. -/
lemma leapBetween_nonneg_or (h : earlier ≤ later) :
    0 ≤ leapBetween later earlier ∨
      leapBetween later earlier = -1 ∧ earlier.day < later.day ∧ 59 ≤ later.second := by
  by_cases hoff : later.second < earlier.second ∧ later.isLeap = true
  · refine Or.inr ⟨?_, ?_, ?_⟩
    · rw [leapBetween, if_neg (fun hon => by omega), if_pos hoff]
    · rw [le_iff] at h
      omega
    · have hlast := later.leap (of_decide_eq_true hoff.2)
      omega
  · rw [leapBetween, if_neg hoff]
    exact Or.inl (by split <;> simp)

/-- From an instant to a later one more than minus a second elapses. -/
lemma neg_lt_elapsed (h : earlier ≤ later) :
    -(nanosPerSecond : Int) < elapsed later earlier := by
  rw [elapsed_eq]
  rcases leapBetween_nonneg_or h with hleap | ⟨hleap, hday, hsecond⟩
  · have hbefore := sinceEpoch_lt_of_le h
    simp only [nanosPerSecond] at *
    omega
  · have hbound := earlier.second_lt
    have hnano := earlier.nano_lt
    simp only [hleap, sinceEpoch, nanosPerSecond, secondsPerDay] at *
    omega

lemma sinceEpoch_le_of_le (h : earlier ≤ later) (hearlier : earlier.isLeap = false) :
    earlier.sinceEpoch ≤ later.sinceEpoch := by
  have hsecond := earlier.second_lt
  have hnano : earlier.nano < nanosPerSecond := by simpa [isLeap] using hearlier
  rw [le_iff] at h
  simp only [sinceEpoch, nanosPerSecond, secondsPerDay] at *
  omega

/-! ### Instants that ages tell apart -/

/-- Ages seen from another instant tell an instant from a later one: no leap second is involved,
or at least a second lies between the two. -/
def ToldApart (earlier later other : Instant) : Prop :=
  (earlier.isLeap = false ∧ later.isLeap = false ∧ other.isLeap = false) ∨
    (nanosPerSecond : Int) ≤ elapsed later earlier

instance (earlier later other : Instant) : Decidable (ToldApart earlier later other) :=
  inferInstanceAs (Decidable (_ ∨ _))

/-- The later of two instants is the younger one, if they are told apart. -/
lemma elapsed_le_of_toldApart (hle : earlier ≤ later) (h : ToldApart earlier later other) :
    elapsed other later ≤ elapsed other earlier := by
  obtain ⟨hearlier, hlater, hother⟩ | hsecond := h
  · have hepoch := sinceEpoch_le_of_le hle hearlier
    rw [elapsed_eq_sub hother hlater, elapsed_eq_sub hother hearlier]
    omega
  · have hadd := elapsed_add_le other later earlier
    omega

/-- At the later of two instants everything is older, if they are told apart. -/
lemma elapsed_le_elapsed_of_toldApart (hle : earlier ≤ later)
    (h : ToldApart earlier later other) : elapsed earlier other ≤ elapsed later other := by
  obtain ⟨hearlier, hlater, hother⟩ | hsecond := h
  · have hepoch := sinceEpoch_le_of_le hle hearlier
    rw [elapsed_eq_sub hearlier hother, elapsed_eq_sub hlater hother]
    omega
  · have hadd := elapsed_add_le later earlier other
    omega

/-- Ages of two instants are out of order by less than two seconds. -/
lemma elapsed_lt_add (hle : earlier ≤ later) (other : Instant) :
    elapsed other later < elapsed other earlier + 2 * nanosPerSecond := by
  have hadd := elapsed_add_le other later earlier
  have hneg := neg_lt_elapsed hle
  simp only [nanosPerSecond] at *
  omega

/-- Ages at two instants are out of order by less than two seconds. -/
lemma elapsed_lt_elapsed_add (hle : earlier ≤ later) (other : Instant) :
    elapsed earlier other < elapsed later other + 2 * nanosPerSecond := by
  have hadd := elapsed_add_le later earlier other
  have hneg := neg_lt_elapsed hle
  simp only [nanosPerSecond] at *
  omega

end Instant

/-! ### Garbage in the order of age -/

open Instant (ToldApart elapsed_le_of_toldApart elapsed_le_elapsed_of_toldApart elapsed_lt_add
  elapsed_lt_elapsed_add)

lemma Retention.mem_garbage_iff_age {retention : Retention} {listing : List Manifest}
    {manifest : Manifest} :
    manifest ∈ retention.garbage listing ↔ manifest ∈ listing ∧
      retention.hasLiveTag manifest = false ∧ retention.minAge < retention.age manifest := by
  rw [garbage, List.mem_filter, isGarbage, beq_iff_eq, judge_eq_garbage_iff]

/-- A retention at another time. -/
def Retention.asOf (retention : Retention) (now : Instant) : Retention :=
  { retention with now := now }

/-- Where instants are told apart, a manifest without live tags is garbage with each younger one,
and garbage stays garbage as time passes.  Elsewhere this fails only for garbage that is less
than two seconds older than the minimum age. -/
theorem garbage_in_order_of_age (retention : Retention) (listing : List Manifest) :
    (∀ older ∈ listing, ∀ younger ∈ retention.garbage listing,
      retention.hasLiveTag older = false → older.timestamp ≤ younger.timestamp →
      ToldApart older.timestamp younger.timestamp retention.now ∨
          retention.minAge + 2 * nanosPerSecond ≤ retention.age younger →
        older ∈ retention.garbage listing) ∧
    ∀ later, retention.now ≤ later → ∀ manifest ∈ retention.garbage listing,
      ToldApart retention.now later manifest.timestamp ∨
          retention.minAge + 2 * nanosPerSecond ≤ retention.age manifest →
        manifest ∈ (retention.asOf later).garbage listing := by
  constructor
  · intro older hlisted younger hyounger huntagged hle hapart
    obtain ⟨-, -, hage⟩ := Retention.mem_garbage_iff_age.mp hyounger
    refine Retention.mem_garbage_iff_age.mpr ⟨hlisted, huntagged, ?_⟩
    rcases hapart with hapart | hold
    · exact hage.trans_le (elapsed_le_of_toldApart hle hapart)
    · have horder := elapsed_lt_add hle retention.now
      simp only [Retention.age] at *
      omega
  · intro later hle manifest hgarbage hapart
    obtain ⟨hlisted, huntagged, hage⟩ := Retention.mem_garbage_iff_age.mp hgarbage
    refine Retention.mem_garbage_iff_age.mpr ⟨hlisted, huntagged, ?_⟩
    rcases hapart with hapart | hold
    · exact hage.trans_le (elapsed_le_elapsed_of_toldApart hle hapart)
    · have horder := elapsed_lt_elapsed_add hle manifest.timestamp
      simp only [Retention.age, Retention.asOf] at *
      omega

/-- A manifest from just before a leap second is garbage with one from within it, which stays
garbage. -/
theorem garbage_in_order_of_age_leap :
    let older : Manifest :=
      ⟨"a", [], ⟨17166, 86399, 0, by decide, by decide, by decide, by decide, by decide⟩⟩
    let younger : Manifest :=
      ⟨"b", [], ⟨17166, 86399, 1500000000, by decide, by decide, by decide, by decide, by decide⟩⟩
    let retention : Retention :=
      ⟨.empty, 86400000000000, ⟨17198, 0, 0, by decide, by decide, by decide, by decide, by decide⟩⟩
    let later : Instant := ⟨17198, 1, 0, by decide, by decide, by decide, by decide, by decide⟩
    younger ∈ retention.garbage [older, younger] ∧ retention.hasLiveTag older = false ∧
      older.timestamp ≤ younger.timestamp ∧
      ToldApart older.timestamp younger.timestamp retention.now ∧
      older ∈ retention.garbage [older, younger] ∧
      retention.now ≤ later ∧ ToldApart retention.now later younger.timestamp ∧
      younger ∈ (retention.asOf later).garbage [older, younger] := by
  intro older younger retention later
  obtain ⟨horder, hpassing⟩ := garbage_in_order_of_age retention [older, younger]
  have hgarbage : younger ∈ retention.garbage [older, younger] := by decide +kernel
  have huntagged : retention.hasLiveTag older = false := by decide +kernel
  have hle : older.timestamp ≤ younger.timestamp := by decide +kernel
  have hapart : ToldApart older.timestamp younger.timestamp retention.now := by decide +kernel
  have hlater : retention.now ≤ later := by decide +kernel
  have hsecond : ToldApart retention.now later younger.timestamp := by decide +kernel
  exact ⟨hgarbage, huntagged, hle, hapart,
    horder older (by simp) younger hgarbage huntagged hle (Or.inl hapart), hlater, hsecond,
    hpassing later hlater younger hgarbage (Or.inl hsecond)⟩

/-- A listing that can be read has a manifest from the leap second at the end of 2016, and one
from the second after it.  A day later the older one is kept and the younger one is garbage.
And a manifest from a leap second that is garbage just before midnight is kept at midnight. -/
theorem garbage_out_of_order :
    let bytes := Text.Utf8.bytesOf
      ("[\x7b\"digest\":\"a\",\"tags\":[],\"timestamp\":\"2016-12-31T23:59:60.5Z\"\x7d,"
        ++ "\x7b\"digest\":\"b\",\"tags\":[],\"timestamp\":\"2017-01-01T00:00:00.2Z\"\x7d,"
        ++ "\x7b\"digest\":\"c\",\"tags\":[],\"timestamp\":\"2017-01-02T12:00:60Z\"\x7d]")
    let nextDay : Retention :=
      ⟨.empty, 86400000000000,
        ⟨17168, 0, 300000000, by decide, by decide, by decide, by decide, by decide⟩⟩
    let beforeMidnight : Retention :=
      ⟨.empty, 43140500000000,
        ⟨17168, 86399, 900000000, by decide, by decide, by decide, by decide, by decide⟩⟩
    let midnight : Instant := ⟨17169, 0, 0, by decide, by decide, by decide, by decide, by decide⟩
    ∃ older younger noon, Manifest.ofBytes bytes = .ok [older, younger, noon] ∧
      (nextDay.hasLiveTag older = false ∧ older.timestamp ≤ younger.timestamp ∧
        younger ∈ nextDay.garbage [older, younger, noon] ∧
        older ∉ nextDay.garbage [older, younger, noon]) ∧
      beforeMidnight.now ≤ midnight ∧ noon ∈ beforeMidnight.garbage [older, younger, noon] ∧
        noon ∉ (beforeMidnight.asOf midnight).garbage [older, younger, noon] := by
  intro bytes nextDay beforeMidnight midnight
  let older : Manifest :=
    ⟨"a", [], ⟨17166, 86399, 1500000000, by decide, by decide, by decide, by decide, by decide⟩⟩
  let younger : Manifest :=
    ⟨"b", [], ⟨17167, 0, 200000000, by decide, by decide, by decide, by decide, by decide⟩⟩
  let noon : Manifest :=
    ⟨"c", [], ⟨17168, 43259, 1000000000, by decide, by decide, by decide, by decide, by decide⟩⟩
  refine ⟨older, younger, noon, ?_, ?_, ?_⟩
  · decide +kernel
  · decide +kernel
  · decide +kernel

end ImageRetention
