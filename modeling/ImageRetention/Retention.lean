import ImageRetention.Image
import ImageRetention.Manifest
import ImageRetention.Run
import ImageRetention.Text.Quoted

/-
Which manifests may be deleted.

* `Retention`: the live tags, the minimum age, and the time it is;
* `Retention.judge`: a manifest is live by one of its tags, or too young, or garbage;
* `Retention.garbage`: the garbage of a listing, in its order;
* `judge_eq_garbage_iff`: garbage is what has no live tag and is older than the minimum age.

A manifest exactly as old as the minimum age is kept.
-/

namespace ImageRetention

/-- What is kept, and when it is asked. -/
structure Retention where
  /-- The tags that are still referred to. -/
  live : SortedSet ImageTag
  /-- The age, in nanoseconds, up to which everything is kept. -/
  minAge : Int
  /-- The time it is. -/
  now : Instant

namespace Retention

/-! ### The rule -/

/-- What is to become of a manifest. -/
inductive Verdict
  /-- It is kept for a live tag. -/
  | live
  /-- It is kept for its age in nanoseconds. -/
  | young (age : Int)
  | garbage
  deriving DecidableEq, Repr

/-- The age of a manifest in nanoseconds. -/
def age (retention : Retention) (manifest : Manifest) : Int :=
  retention.now.elapsed manifest.timestamp

/-- Whether one of the tags of a manifest is live. -/
def hasLiveTag (retention : Retention) (manifest : Manifest) : Bool :=
  manifest.tags.any fun tag => retention.live.contains ⟨tag⟩

/-- What is to become of a manifest. -/
def judge (retention : Retention) (manifest : Manifest) : Verdict :=
  if retention.hasLiveTag manifest then .live
  else if retention.age manifest ≤ retention.minAge then .young (retention.age manifest)
  else .garbage

/-- Whether a manifest may be deleted. -/
def isGarbage (retention : Retention) (manifest : Manifest) : Bool :=
  retention.judge manifest == .garbage

/-- The manifests of a listing that may be deleted, in the order of the listing. -/
def garbage (retention : Retention) (listing : List Manifest) : List Manifest :=
  listing.filter retention.isGarbage

theorem hasLiveTag_iff {retention : Retention} {manifest : Manifest} :
    retention.hasLiveTag manifest = true ↔
      ∃ tag ∈ manifest.tags, (⟨tag⟩ : ImageTag) ∈ retention.live := by
  simp [hasLiveTag]

/-- Garbage is what has no live tag and is older than the minimum age. -/
theorem judge_eq_garbage_iff {retention : Retention} {manifest : Manifest} :
    retention.judge manifest = .garbage ↔
      retention.hasLiveTag manifest = false ∧
        retention.minAge < retention.age manifest := by
  unfold judge
  split
  · simp_all
  · split
    · simp_all
    · simp_all

/-! ### What is said about kept manifests -/

/-- Nanoseconds in a day. -/
def nanosPerDay : Nat := secondsPerDay * nanosPerSecond

/-- The log entry about a manifest that is kept. -/
def remark? (retention : Retention) (manifest : Manifest) : Option Event :=
  match retention.judge manifest with
  | .live => some (.logged ⟨.debug, .retention,
      "Keeping " ++ manifest.digest ++ ": live tags " ++ Text.quotedList manifest.tags⟩)
  | .young age => some (.logged ⟨.debug, .retention,
      "Keeping " ++ manifest.digest ++ ": only "
        ++ toString (age.tdiv nanosPerDay) ++ " days old"⟩)
  | .garbage => none

end Retention

end ImageRetention
