import Mathlib.Tactic
import ImageRetention.Proofs.Instant.Span
import ImageRetention.Retention

/-!
The minimum age, from the command line to the verdict on a manifest.

* `CommandLine.minAge_eq_ofDays?`: the minimum age is what its days are as a span;
* `CommandLine.minAge_eq_error_iff`: just negative numbers of days, and those beyond the longest
  duration, are refused;
* `Retention.isGarbage_iff_span`: a manifest is judged by the span since its timestamp;
* `minAge_exact`: no span is out of range from the command line to the verdict, and the manifests
  without a live tag that are selected are those that are older than the minimum age, to the
  nanosecond.
-/

namespace ImageRetention

open CommandLine (longestMillis millisPerDay nanosOfDays)

/-! ### The minimum age -/

namespace CommandLine

/-- The minimum age is what its days are as a span. -/
lemma minAge_eq_ofDays? (commandLine : CommandLine) :
    commandLine.minAge =
      if commandLine.minAgeDays < 0 then .error (.negativeMinAge commandLine.minAgeDays)
      else match Span.ofDays? commandLine.minAgeDays with
        | none => .error (.minAgeOutOfRange commandLine.minAgeDays)
        | some limit => .ok limit.count := by
  by_cases hnegative : commandLine.minAgeDays < 0
  · simp only [minAge, hnegative, if_true]
  · simp only [minAge, hnegative, if_false]
    cases hlimit : Span.ofDays? commandLine.minAgeDays with
    | none =>
        have hnone : ¬∃ limit, Span.ofDays? commandLine.minAgeDays = some limit := by
          simp [hlimit]
        rw [Span.exists_ofDays?_iff, Span.longestMillis_eq, Span.millisPerDay_eq] at hnone
        rw [Span.longestMillis_eq, Span.millisPerDay_eq, if_pos (by omega)]
    | some limit =>
        have hrange := (Span.exists_ofDays?_iff.mp ⟨limit, hlimit⟩).2
        obtain ⟨hseconds, hnanos⟩ := Span.ofDays?_eq_some_iff.mp hlimit
        rw [if_neg (by omega)]
        simp only [Span.count, hseconds, hnanos, nanosOfDays, Nat.cast_zero, add_zero]

/-- An accepted minimum age is that of a span. -/
lemma exists_limit_of_minAge_eq_ok {commandLine : CommandLine} {minAge : Int}
    (h : commandLine.minAge = .ok minAge) :
    ∃ limit, Span.ofDays? commandLine.minAgeDays = some limit ∧ limit.count = minAge := by
  rw [minAge_eq_ofDays?] at h
  by_cases hnegative : commandLine.minAgeDays < 0
  · simp [hnegative] at h
  · rw [if_neg hnegative] at h
    cases hlimit : Span.ofDays? commandLine.minAgeDays with
    | none => simp [hlimit] at h
    | some limit => exact ⟨limit, rfl, by simpa [hlimit] using h⟩

lemma minAge_eq_error_iff {commandLine : CommandLine} {cause : Cause} :
    commandLine.minAge = .error cause ↔
      (commandLine.minAgeDays < 0 ∧ cause = .negativeMinAge commandLine.minAgeDays) ∨
        0 ≤ commandLine.minAgeDays ∧ longestMillis < commandLine.minAgeDays * millisPerDay ∧
          cause = .minAgeOutOfRange commandLine.minAgeDays := by
  by_cases hnegative : commandLine.minAgeDays < 0
  · have hsign : ¬0 ≤ commandLine.minAgeDays := by omega
    simp [minAge, hnegative, hsign, eq_comm]
  · have hsign : 0 ≤ commandLine.minAgeDays := by omega
    by_cases hlong : longestMillis < commandLine.minAgeDays * millisPerDay
    · simp [minAge, hnegative, hsign, hlong, eq_comm]
    · simp [minAge, hnegative, hlong]

end CommandLine

/-! ### The verdict -/

/-- A manifest is judged by the span since its timestamp, which is never out of range. -/
lemma Retention.isGarbage_iff_span {retention : Retention} {limit : Span}
    (hlimit : limit.count = retention.minAge) (manifest : Manifest) :
    ∃ age, retention.now.span? manifest.timestamp = some age ∧
      age.count = retention.age manifest ∧
        (retention.isGarbage manifest = true ↔
          retention.hasLiveTag manifest = false ∧ ¬age ≤ limit) := by
  obtain ⟨age, hage, hcount⟩ := Instant.exists_span? retention.now manifest.timestamp
  refine ⟨age, hage, hcount, ?_⟩
  rw [isGarbage, beq_iff_eq, judge_eq_garbage_iff, Span.le_iff_count_le, hcount, hlimit, not_le]
  rfl

/-- The minimum age is exact.  A number of days is refused if it is negative or beyond the longest
duration, and else is that many days, as seconds and as nanoseconds.  The span since a timestamp
is never out of range either, however far the instants are apart and whichever comes first.  And
where no leap second is named, what is selected from a listing, in its order and as often as it
is listed, is each manifest without a live tag that is older than so many days; one that is just
that old is kept. -/
theorem minAge_exact (commandLine : CommandLine) :
    (∀ cause, commandLine.minAge = .error cause ↔
      (commandLine.minAgeDays < 0 ∧ cause = .negativeMinAge commandLine.minAgeDays) ∨
        0 ≤ commandLine.minAgeDays ∧ longestMillis < commandLine.minAgeDays * millisPerDay ∧
          cause = .minAgeOutOfRange commandLine.minAgeDays) ∧
    ∀ minAge, commandLine.minAge = .ok minAge →
      minAge = commandLine.minAgeDays * 86400 * 10 ^ 9 ∧
      ∃ limit, Span.ofDays? commandLine.minAgeDays = some limit ∧
        limit.seconds = commandLine.minAgeDays * 86400 ∧ limit.nanos = 0 ∧
      ∀ live now, ∃ picked : Manifest → Bool,
        (∀ listing, (Retention.mk live minAge now).garbage listing = listing.filter picked) ∧
        ∀ manifest, ∃ age, now.span? manifest.timestamp = some age ∧
          (picked manifest = true ↔
            (Retention.mk live minAge now).hasLiveTag manifest = false ∧ ¬age ≤ limit) ∧
          (now.isLeap = false → manifest.timestamp.isLeap = false →
            age.count = now.sinceEpoch - manifest.timestamp.sinceEpoch ∧
            (picked manifest = true ↔
              (Retention.mk live minAge now).hasLiveTag manifest = false ∧
                commandLine.minAgeDays * 86400 * 10 ^ 9 <
                  now.sinceEpoch - manifest.timestamp.sinceEpoch)) := by
  refine ⟨fun cause => CommandLine.minAge_eq_error_iff, fun minAge hminAge => ?_⟩
  obtain ⟨-, -, hnanos⟩ := CommandLine.minAge_eq_ok_iff.mp hminAge
  obtain ⟨limit, hlimit, hcount⟩ := CommandLine.exists_limit_of_minAge_eq_ok hminAge
  obtain ⟨hseconds, hnone⟩ := Span.ofDays?_eq_some_iff.mp hlimit
  refine ⟨hnanos, limit, hlimit, hseconds, hnone, fun live now => ?_⟩
  let retention : Retention := ⟨live, minAge, now⟩
  refine ⟨retention.isGarbage, fun listing => rfl, fun manifest => ?_⟩
  have hretention : limit.count = retention.minAge := hcount
  obtain ⟨age, hspan, hage, hpicked⟩ := Retention.isGarbage_iff_span hretention manifest
  refine ⟨age, hspan, hpicked, fun hnow htimestamp => ?_⟩
  have helapsed : age.count = now.sinceEpoch - manifest.timestamp.sinceEpoch :=
    hage.trans (Instant.elapsed_eq_sub hnow htimestamp)
  refine ⟨helapsed, ?_⟩
  rw [hpicked, Span.le_iff_count_le, helapsed, hcount, hnanos, not_le]
  rfl

/-- From the first day to the last but one, with a minimum age of one day less: what was there on
the first day is selected as often as it is listed, and what came a day later, or is still to
come, is kept. -/
theorem minAge_exact_longest :
    let commandLine : CommandLine :=
      ⟨"repo", [⟨["master"]⟩], 191491526, none, .info, none, {}, false⟩
    let minAge : Int := 191491526 * 86400 * 10 ^ 9
    let now := (Instant.ofParts? 95026235 0 0).get (by decide)
    let older : Manifest := ⟨"a", [], (Instant.ofParts? (-96465292) 0 0).get (by decide)⟩
    let oldEnough : Manifest := ⟨"b", [], (Instant.ofParts? (-96465291) 0 0).get (by decide)⟩
    let future : Manifest := ⟨"c", [], (Instant.ofParts? 95026236 0 0).get (by decide)⟩
    commandLine.minAge = .ok minAge ∧ now.isLeap = false ∧
      (∀ manifest ∈ [older, oldEnough, future], manifest.timestamp.isLeap = false) ∧
      (Retention.mk .empty minAge now).garbage [older, oldEnough, future, older] =
        [older, older] := by
  intro commandLine minAge now older oldEnough future
  have hminAge : commandLine.minAge = .ok minAge := by decide +kernel
  obtain ⟨-, haccepted⟩ := minAge_exact commandLine
  obtain ⟨-, limit, -, -, -, hjudged⟩ := haccepted minAge hminAge
  obtain ⟨picked, hgarbage, hpicked⟩ := hjudged .empty now
  have hnow : now.isLeap = false := rfl
  have hleap : ∀ manifest ∈ [older, oldEnough, future], manifest.timestamp.isLeap = false := by
    decide
  have hexact (manifest : Manifest) (h : manifest.timestamp.isLeap = false) :
      picked manifest = true ↔
        (Retention.mk .empty minAge now).hasLiveTag manifest = false ∧
          minAge < now.sinceEpoch - manifest.timestamp.sinceEpoch := by
    obtain ⟨age, -, -, helapsed⟩ := hpicked manifest
    exact (helapsed hnow h).2
  have holder : picked older = true := (hexact older rfl).mpr ⟨rfl, by decide⟩
  have holdEnough : picked oldEnough = false :=
    Bool.eq_false_iff.mpr fun h => absurd ((hexact oldEnough rfl).mp h).2 (by decide)
  have hfuture : picked future = false :=
    Bool.eq_false_iff.mpr fun h => absurd ((hexact future rfl).mp h).2 (by decide)
  refine ⟨hminAge, hnow, hleap, ?_⟩
  rw [hgarbage]
  simp [holder, holdEnough, hfuture]

end ImageRetention
