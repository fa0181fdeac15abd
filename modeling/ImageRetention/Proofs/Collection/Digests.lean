import Mathlib.Tactic
import ImageRetention.Manifest.Listing
import ImageRetention.Proofs.Collection.Deletions
import ImageRetention.Registry.Memory
import ImageRetention.Text.Utf8

/-!
Digests that occur more than once in a listing.

* `Retention.Protects`: a manifest has a live tag or is too young;
* `protected_spared_iff`: whatever the registry does, no deletion is asked for the digest of a
  protected entry, just if entries with one digest are protected together;
* `live_digest_deleted`: a listing for which this fails.

What is garbage is decided for each entry by itself, while a deletion names a digest.
-/

namespace ImageRetention

/-- A manifest has a live tag or is too young to be deleted. -/
def Retention.Protects (retention : Retention) (manifest : Manifest) : Prop :=
  (∃ tag ∈ manifest.tags, (⟨tag⟩ : ImageTag) ∈ retention.live) ∨
    retention.age manifest ≤ retention.minAge

/-- Garbage is what is not protected. -/
lemma Retention.isGarbage_iff {retention : Retention} {manifest : Manifest} :
    retention.isGarbage manifest = true ↔ ¬retention.Protects manifest := by
  rw [isGarbage, beq_iff_eq, judge_eq_garbage_iff, Protects, ← hasLiveTag_iff, not_or, not_le,
    Bool.not_eq_true]

lemma Retention.mem_garbage_iff {retention : Retention} {listing : List Manifest}
    {manifest : Manifest} :
    manifest ∈ retention.garbage listing ↔ manifest ∈ listing ∧ ¬retention.Protects manifest := by
  rw [garbage, List.mem_filter, isGarbage_iff]

/-- A registry kept in memory from which all garbage is deleted. -/
lemma Registry.Memory.deletions_eq (retention : Retention) (listing : List Manifest) :
    ((Memory.mk listing []).registry.deletions retention false []).map Deletion.manifest =
      retention.garbage listing := by
  have hlist : ((Memory.mk listing []).registry.list []).result = .ok listing := rfl
  refine ImageRetention.deletions_eq hlist retention fun deletion hdeletion => ?_
  obtain ⟨before, hresult⟩ := exists_delete hlist retention false hdeletion
  rw [← hresult]
  rfl

/-- Whatever a registry does, no deletion is asked for the digest of an entry that has a live
tag or is too young, just if all entries with the digest of such an entry are protected too. -/
theorem protected_spared_iff (retention : Retention) (listing : List Manifest) :
    (∀ (σ : Type) (registry : Registry σ) (state : σ) (dryRun : Bool),
      (registry.list state).result = .ok listing →
      ∀ deletion ∈ registry.deletions retention dryRun state, ∀ entry ∈ listing,
        retention.Protects entry → entry.digest ≠ deletion.manifest.digest) ↔
    ∀ entry ∈ listing, retention.Protects entry → ∀ other ∈ listing,
      other.digest = entry.digest → retention.Protects other := by
  constructor
  · intro hspared entry hentry hprotects other hother hdigest
    by_contra hgarbage
    have hmem : other ∈ retention.garbage listing :=
      Retention.mem_garbage_iff.mpr ⟨hother, hgarbage⟩
    rw [← Registry.Memory.deletions_eq retention listing] at hmem
    obtain ⟨deletion, hdeletion, rfl⟩ := List.mem_map.mp hmem
    exact hspared _ _ _ false rfl deletion hdeletion entry hentry hprotects hdigest.symm
  · intro hagree σ registry state dryRun hlist deletion hdeletion entry hentry hprotects hdigest
    have hmem := (deletions_prefix_garbage hlist retention dryRun).subset
      (List.mem_map_of_mem hdeletion)
    obtain ⟨hlisted, hgarbage⟩ := Retention.mem_garbage_iff.mp hmem
    exact hgarbage (hagree entry hentry hprotects deletion.manifest hlisted hdigest.symm)

/-- A listing that can be read has a digest in two entries, one of which has a live tag.  The
digest is deleted for the other one. -/
theorem live_digest_deleted :
    let bytes := Text.Utf8.bytesOf
      ("[\x7b\"digest\":\"a\",\"tags\":[\"live\"],\"timestamp\":\"2018-01-01T00:00:00Z\"\x7d,"
        ++ "\x7b\"digest\":\"a\",\"tags\":[],\"timestamp\":\"2018-01-01T00:00:00Z\"\x7d]")
    let retention : Retention :=
      ⟨.ofList [⟨"live"⟩], 0, ⟨17683, 0, 0, by decide, by decide, by decide, by decide, by decide⟩⟩
    ∃ listing, Manifest.ofBytes bytes = .ok listing ∧
      ∃ deletion ∈ (Registry.Memory.mk listing []).registry.deletions retention false [],
        ∃ entry ∈ listing, (∃ tag ∈ entry.tags, (⟨tag⟩ : ImageTag) ∈ retention.live) ∧
          entry.digest = deletion.manifest.digest := by
  intro bytes retention
  let published : Instant :=
    ⟨17532, 0, 0, by decide, by decide, by decide, by decide, by decide⟩
  let kept : Manifest := ⟨"a", ["live"], published⟩
  let untagged : Manifest := ⟨"a", [], published⟩
  have hbytes : Manifest.ofBytes bytes = .ok [kept, untagged] := by
    decide +kernel
  have hgarbage : untagged ∈ retention.garbage [kept, untagged] := by
    decide +kernel
  rw [← Registry.Memory.deletions_eq] at hgarbage
  obtain ⟨deletion, hdeletion, hmanifest⟩ := List.mem_map.mp hgarbage
  refine ⟨_, hbytes, deletion, hdeletion, kept, by simp, ⟨"live", by simp [kept], ?_⟩, ?_⟩
  · simp [retention]
  · rw [hmanifest]

end ImageRetention
