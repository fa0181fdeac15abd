import Mathlib.Tactic
import ImageRetention.Proofs.Collection.Driver
import ImageRetention.Proofs.Extension

/-!
The deletions that a collection asks of a registry.

* `Registry.traced`: a registry that keeps the calls to its deletions, and is otherwise the
  same;
* `Registry.deletions`: the deletions that a collection asks for, with their results;
* `deletions_prefix_garbage`, `deletions_eq`: they are asked for in the order of the garbage, and
  for all of it if none fails;
* `exists_delete`: their results are those that the registry gives.
-/

namespace ImageRetention

variable {σ : Type}

/-- A deletion that was asked for, with its result. -/
structure Deletion where
  manifest : Manifest
  result : Except Failure Unit

/-- A registry that keeps the deletions that were asked of it. -/
def Registry.traced (registry : Registry σ) : Registry (σ × List Deletion) where
  list state :=
    let outcome := registry.list state.1
    ⟨(outcome.state, state.2), outcome.events, outcome.result⟩
  delete manifest state :=
    let outcome := registry.delete manifest state.1
    ⟨(outcome.state, state.2 ++ [⟨manifest, outcome.result⟩]), outcome.events, outcome.result⟩

/-- The deletions that a collection asks for. -/
def Registry.deletions (registry : Registry σ) (retention : Retention) (dryRun : Bool)
    (state : σ) : List Deletion :=
  (collect registry.traced retention dryRun (state, [])).state.2

/-! ### The deletions in order -/

open Collection (Deleting PassesOver)

lemma Deletion.passesOver : PassesOver (Observer.kept σ Deletion) :=
  ⟨fun _ _ => (List.append_nil _).symm, fun _ _ => (List.append_nil _).symm,
    fun _ _ => (List.append_nil _).symm⟩

/-- A deletion leaves itself behind, with the result that the registry gives. -/
def Deletion.Left (registry : Registry σ) (manifest : Manifest) (record : List Deletion)
    (result : Except Failure Unit) : Prop :=
  record = [⟨manifest, result⟩] ∧ ∃ before, (registry.delete manifest before).result = result

lemma Deletion.shows_delete (registry : Registry σ) (manifest : Manifest) :
    (Observer.kept σ Deletion).Shows (registry.traced.delete manifest)
      (Deletion.Left registry manifest) := fun state =>
  ⟨_, rfl, rfl, state.1, rfl⟩

variable {registry : Registry σ} {state : σ} {listing : List Manifest}

section Deleting

variable {manifests : List Manifest} {record : List Deletion} {result : Except Failure Unit}

lemma Deletion.prefix_of_deleting (h : Deleting (Deletion.Left registry) manifests record result) :
    record.map Deletion.manifest <+: manifests := by
  induction h with
  | done => simp
  | failed h => simp [h.1]
  | next h hrest ih => simpa [h.1] using ih

lemma Deletion.eq_of_deleting (h : Deleting (Deletion.Left registry) manifests record result)
    (hall : ∀ deletion ∈ record, deletion.result = .ok ()) :
    record.map Deletion.manifest = manifests := by
  induction h with
  | done => rfl
  | failed h => simp [h.1] at hall
  | next h hrest ih =>
      have hfurther := ih fun deletion hdeletion => hall deletion (by simp [hdeletion])
      simp [h.1, hfurther]

lemma Deletion.result_of_deleting (h : Deleting (Deletion.Left registry) manifests record result)
    {deletion : Deletion} (hmem : deletion ∈ record) :
    ∃ before, (registry.delete deletion.manifest before).result = deletion.result := by
  induction h with
  | done => simp at hmem
  | failed h =>
      obtain ⟨rfl, hresult⟩ := h
      rw [List.mem_singleton.mp hmem]
      exact hresult
  | next h hrest ih =>
      obtain ⟨rfl, hresult⟩ := h
      rcases List.mem_append.mp hmem with hmem | hmem
      · rw [List.mem_singleton.mp hmem]
        exact hresult
      · exact ih hmem

end Deleting

/-- A collection asks for no deletion on a dry run.  Otherwise it deletes the garbage of the
listing in order, up to the first failure. -/
lemma deleting_of_list (hlist : (registry.list state).result = .ok listing)
    (retention : Retention) (dryRun : Bool) :
    (dryRun = true ∧ registry.deletions retention dryRun state = []) ∨
      ∃ result, Deleting (Deletion.Left registry) (retention.garbage listing)
        (registry.deletions retention dryRun state) result := by
  have hlisted : (Observer.kept σ Deletion).ShowsAt registry.traced.list (state, [])
      fun record result => record = [] ∧ result = .ok listing :=
    ⟨[], (List.append_nil _).symm, rfl, hlist⟩
  obtain ⟨record, hfits, hcollected⟩ := Collection.showsAt_collect Deletion.passesOver hlisted
    (Deletion.shows_delete registry) retention dryRun
  obtain rfl : registry.deletions retention dryRun state = record := hfits
  rcases hcollected with ⟨failure, ⟨-, ⟨⟩⟩, -⟩ |
    ⟨manifests, before, after, hrecord, ⟨rfl, hmanifests⟩, hafter⟩
  cases hmanifests
  rw [hrecord, List.nil_append]
  rcases hafter with ⟨hdry, rfl, -⟩ | ⟨-, inner, hdeleting, -⟩
  · exact Or.inl ⟨hdry, rfl⟩
  · exact Or.inr ⟨inner, hdeleting⟩

/-- Deletions are asked for in the order of the garbage. -/
theorem deletions_prefix_garbage (hlist : (registry.list state).result = .ok listing)
    (retention : Retention) (dryRun : Bool) :
    (registry.deletions retention dryRun state).map Deletion.manifest <+:
      retention.garbage listing := by
  rcases deleting_of_list hlist retention dryRun with ⟨-, hnone⟩ | ⟨result, hdeleting⟩
  · simp [hnone]
  · exact Deletion.prefix_of_deleting hdeleting

/-- All garbage is deleted if no deletion fails. -/
theorem deletions_eq (hlist : (registry.list state).result = .ok listing)
    (retention : Retention)
    (hall : ∀ deletion ∈ registry.deletions retention false state, deletion.result = .ok ()) :
    (registry.deletions retention false state).map Deletion.manifest =
      retention.garbage listing := by
  rcases deleting_of_list hlist retention false with ⟨⟨⟩, -⟩ | ⟨result, hdeleting⟩
  exact Deletion.eq_of_deleting hdeleting hall

/-- The results of deletions are those that the registry gives. -/
theorem exists_delete (hlist : (registry.list state).result = .ok listing) (retention : Retention)
    (dryRun : Bool) {deletion : Deletion}
    (hmem : deletion ∈ registry.deletions retention dryRun state) :
    ∃ before, (registry.delete deletion.manifest before).result = deletion.result := by
  rcases deleting_of_list hlist retention dryRun with ⟨-, hnone⟩ | ⟨result, hdeleting⟩
  · simp [hnone] at hmem
  · exact Deletion.result_of_deleting hdeleting hmem

end ImageRetention
