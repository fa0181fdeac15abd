import Mathlib.Tactic
import ImageRetention.Collection
import ImageRetention.Proofs.Observer

/-!
What a collection does with its registry, for any observer who passes over its steps.

* `Collection.Deleting`: deletions in order, up to the first that fails;
* `Collection.shows_deleteEach`: a collection deletes in this way;
* `Collection.showsAt_collect`: first the listing, and then the deletion of its garbage.
-/

namespace ImageRetention.Collection

open Observer (shows_emit shows_emitEach shows_pure shows_log ignores_logged)

variable {σ ρ : Type}

/-- What deletions leave behind, one after the other, if each leaves behind what `post`
says. -/
inductive Deleting (post : Manifest → List ρ → Except Failure Unit → Prop) :
    List Manifest → List ρ → Except Failure Unit → Prop
  | done : Deleting post [] [] (.ok ())
  | failed {manifest : Manifest} {rest : List Manifest} {record : List ρ} {failure : Failure}
      (h : post manifest record (.error failure)) :
      Deleting post (manifest :: rest) record (.error failure)
  | next {manifest : Manifest} {rest : List Manifest} {record further : List ρ}
      {result : Except Failure Unit} (h : post manifest record (.ok ()))
      (hrest : Deleting post rest further result) :
      Deleting post (manifest :: rest) (record ++ further) result

/-- An observer passes over the steps of a collection. -/
structure PassesOver (observer : Observer σ ρ) : Prop where
  deleting : ∀ manifest, observer.Ignores (.deleting manifest)
  deleted : ∀ manifest, observer.Ignores (.deleted manifest)
  reported : ∀ manifest, observer.Ignores (.reported manifest)

variable {observer : Observer σ ρ} {registry : Registry σ}
  {listed : List ρ → Except Failure (List Manifest) → Prop}
  {post : Manifest → List ρ → Except Failure Unit → Prop}

lemma shows_deleteOne (hsteps : PassesOver observer) (manifest : Manifest)
    (hdelete : observer.Shows (registry.delete manifest) (post manifest)) :
    observer.Shows (deleteOne registry manifest) (post manifest) := by
  refine (shows_emit (hsteps.deleting manifest)).after_silent ((hdelete.bind fun _ =>
    (shows_emit (hsteps.deleted manifest)).after_silent
      (shows_emit (hsteps.reported manifest))).mono ?_)
  rintro record result (⟨failure, hpost, rfl⟩ | ⟨⟨⟩, before, after, rfl, hpost, rfl, rfl⟩)
  · exact hpost
  · simpa using hpost

/-- Deletions are made in order, and none after one that fails. -/
theorem shows_deleteEach (hsteps : PassesOver observer)
    (hdelete : ∀ manifest, observer.Shows (registry.delete manifest) (post manifest))
    (manifests : List Manifest) :
    observer.Shows (deleteEach registry manifests) (Deleting post manifests) := by
  induction manifests with
  | nil =>
      refine (shows_pure ()).mono ?_
      rintro record result ⟨rfl, rfl⟩
      exact .done
  | cons manifest rest ih =>
      refine ((shows_deleteOne hsteps manifest (hdelete manifest)).bind fun _ => ih).mono ?_
      rintro record result (⟨failure, hpost, rfl⟩ | ⟨⟨⟩, before, after, rfl, hpost, hrest⟩)
      · exact .failed hpost
      · exact .next hpost hrest

/-- What a collection leaves behind, if its listing and its deletions leave behind what
`listed` and `post` say. -/
def Collected (retention : Retention) (dryRun : Bool)
    (listed : List ρ → Except Failure (List Manifest) → Prop)
    (post : Manifest → List ρ → Except Failure Unit → Prop) (record : List ρ)
    (result : Except Failure (List Manifest)) : Prop :=
  (∃ failure, listed record (.error failure) ∧ result = .error failure) ∨
    ∃ manifests before after, record = before ++ after ∧ listed before (.ok manifests) ∧
      ((dryRun = true ∧ after = [] ∧ result = .ok (retention.garbage manifests)) ∨
        (dryRun = false ∧ ∃ inner, Deleting post (retention.garbage manifests) after inner ∧
          result = inner.map fun _ => retention.garbage manifests))

lemma shows_announce (retention : Retention) (manifests : List Manifest) :
    observer.Shows (announce retention manifests) fun record result =>
      record = [] ∧ result = .ok () := by
  refine (shows_emitEach fun event hevent => ?_).after_silent (shows_log _ _ _)
  obtain ⟨manifest, -, hremark⟩ := List.mem_filterMap.mp hevent
  rw [Retention.remark?] at hremark
  split at hremark
  · exact Option.some.inj hremark ▸ ignores_logged _
  · exact Option.some.inj hremark ▸ ignores_logged _
  · cases hremark

/-- A collection takes the listing first.  Only if that succeeds, and only if it is no dry run,
it deletes the garbage of the listing. -/
theorem showsAt_collect {state : σ} (hsteps : PassesOver observer)
    (hlist : observer.ShowsAt registry.list state listed)
    (hdelete : ∀ manifest, observer.Shows (registry.delete manifest) (post manifest))
    (retention : Retention) (dryRun : Bool) :
    observer.ShowsAt (collect registry retention dryRun) state
      (Collected retention dryRun listed post) := by
  cases dryRun with
  | true =>
      refine (hlist.bind fun manifests _ => (shows_announce retention manifests).after_silent
        ((shows_emitEach fun manifest _ => hsteps.reported manifest).after_silent
          (shows_pure (retention.garbage manifests)))).mono ?_
      rintro record result (hfails | ⟨manifests, before, after, rfl, hlisted, hafter, rfl⟩)
      · exact Or.inl hfails
      · exact Or.inr ⟨manifests, before, after, rfl, hlisted, Or.inl ⟨rfl, hafter, rfl⟩⟩
  | false =>
      refine (hlist.bind fun manifests _ => (shows_announce retention manifests).after_silent
        ((shows_deleteEach hsteps hdelete (retention.garbage manifests)).bind fun _ =>
          shows_pure (retention.garbage manifests))).mono ?_
      rintro record result (hfails | ⟨manifests, before, after, rfl, hlisted,
        ⟨failure, hdeleting, rfl⟩ | ⟨⟨⟩, deletions, _, rfl, hdeleting, rfl, rfl⟩⟩)
      · exact Or.inl hfails
      · exact Or.inr ⟨manifests, before, after, rfl, hlisted,
          Or.inr ⟨rfl, _, hdeleting, rfl⟩⟩
      · exact Or.inr ⟨manifests, before, deletions, by simp, hlisted,
          Or.inr ⟨rfl, _, hdeleting, rfl⟩⟩

end ImageRetention.Collection
