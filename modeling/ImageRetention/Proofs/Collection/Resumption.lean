import Mathlib.Tactic
import ImageRetention.Proofs.Collection.Reports

/-!
Collections that are interrupted and taken up again.

* `Registry.Keeps`: a registry shows a stock of manifests, from which just the deletions that
  succeed take;
* `Registry.cleared`: the manifests that a collection deletes;
* `stock_after_swept`, `Keeps.exists_count`: what a collection leaves of the stock, wherever it
  ends;
* `Keeps.garbage_after`: the garbage of what is left is the garbage that is left;
* `Registry.Resumed`: collections that fail, one after the other, and one that succeeds;
* `interrupted_collection_resumes`: together they delete the garbage of the first listing, and
  there is nothing left to do.

Each collection starts from what the one before it left.  So the induction over collections
needs nothing but what a single one does to the garbage.
-/

namespace ImageRetention

open Collection (Swept Ends made)

variable {σ : Type} {registry : Registry σ} {stock : σ → List Manifest} {retention : Retention}
  {state start after listed : σ} {manifests garbage : List Manifest} {record : List Event}

/-! ### Registries with a stock -/

/-- A stock without the entry that has the digest of a manifest. -/
def withoutDigest (manifest : Manifest) (entries : List Manifest) : List Manifest :=
  entries.filter fun entry => entry.digest != manifest.digest

/-- A registry shows a stock of manifests.  A deletion that succeeds takes the entry with its
digest from the stock and keeps the order of the others.  Nothing else changes the stock. -/
structure Registry.Keeps (registry : Registry σ) (stock : σ → List Manifest) : Prop where
  shows : ∀ state listing, (registry.list state).result = .ok listing → listing = stock state
  list : ∀ state, stock (registry.list state).state = stock state
  delete_ok : ∀ manifest state, (registry.delete manifest state).result = .ok () →
    stock (registry.delete manifest state).state = withoutDigest manifest (stock state)
  delete_error : ∀ manifest state failure,
    (registry.delete manifest state).result = .error failure →
      stock (registry.delete manifest state).state = stock state

/-- A stock without the entries that have the digests of some manifests. -/
def withoutDigests (manifests entries : List Manifest) : List Manifest :=
  entries.filter fun entry => entry.digest ∉ manifests.map Manifest.digest

@[simp] lemma withoutDigests_nil (entries : List Manifest) :
    withoutDigests [] entries = entries := by
  simp [withoutDigests]

lemma withoutDigests_cons (manifest : Manifest) (rest entries : List Manifest) :
    withoutDigests (manifest :: rest) entries =
      withoutDigests rest (withoutDigest manifest entries) := by
  rw [withoutDigests, withoutDigests, withoutDigest, List.filter_filter]
  refine List.filter_congr fun entry _ => ?_
  rw [Bool.eq_iff_iff]
  simp [and_comm]

/-- Manifests that are deleted one after the other are missing from the stock afterwards. -/
lemma stock_after_swept (hkeeps : registry.Keeps stock)
    (h : Swept registry start manifests record after) :
    stock after = withoutDigests manifests (stock start) := by
  induction h with
  | none state => rw [withoutDigests_nil]
  | @next state middle after manifest rest events more hdelete hrest ih =>
      have hmiddle := hkeeps.delete_ok manifest state (by rw [hdelete])
      rw [hdelete] at hmiddle
      rw [ih, hmiddle, withoutDigests_cons]

/-! ### What a collection deletes -/

/-- The manifest of a deletion that succeeded. -/
def Deletion.done? (deletion : Deletion) : Option Manifest :=
  match deletion.result with
  | .ok () => some deletion.manifest
  | .error _ => none

/-- The manifests that a collection deletes, in order. -/
def Registry.cleared (registry : Registry σ) (retention : Retention) (state : σ) :
    List Manifest :=
  (registry.deletions retention false state).filterMap Deletion.done?

lemma filterMap_done?_made (manifests : List Manifest) :
    (manifests.map made).filterMap Deletion.done? = manifests := by
  rw [List.filterMap_map]
  exact List.filterMap_some

/-- Wherever deletions end, those that were made are the first ones, and the stock lacks just
their manifests. -/
lemma Collection.Ends.cleared_eq {count : ℕ} {deletions : List Deletion}
    {outcome : Outcome σ (List Manifest)} (hkeeps : registry.Keeps stock)
    (h : Ends registry garbage start count deletions outcome) :
    deletions.filterMap Deletion.done? = garbage.take count ∧
      stock outcome.state = withoutDigests (garbage.take count) (stock start) := by
  cases h with
  | done hswept =>
      rw [List.take_length]
      exact ⟨filterMap_done?_made garbage, stock_after_swept hkeeps hswept⟩
  | @stopped _ manifest record events after last failure hnext hswept hfails =>
      have hlast := hkeeps.delete_error manifest after failure (by rw [hfails])
      rw [hfails, stock_after_swept hkeeps hswept] at hlast
      refine ⟨?_, hlast⟩
      rw [List.filterMap_append, filterMap_done?_made]
      exact List.append_nil _

lemma Collection.Ends.count_eq_length {count : ℕ} {deletions : List Deletion}
    {outcome : Outcome σ (List Manifest)} {result : List Manifest}
    (h : Ends registry garbage start count deletions outcome) (hok : outcome.result = .ok result) :
    count = garbage.length := by
  cases h with
  | done => rfl
  | stopped => cases hok

/-- A collection deletes a first part of the garbage, all of it if it succeeds, and nothing
else. -/
lemma Registry.Keeps.exists_count (hkeeps : registry.Keeps stock) (retention : Retention)
    (state : σ) :
    ∃ count, registry.cleared retention state = (retention.garbage (stock state)).take count ∧
      stock (collect registry retention false state).state =
        withoutDigests ((retention.garbage (stock state)).take count) (stock state) ∧
      ((∃ result, (collect registry retention false state).result = .ok result) →
        count = (retention.garbage (stock state)).length) := by
  have hlisted := hkeeps.list state
  rcases hlist : registry.list state with ⟨listed, heard, failure | listing⟩
  · rw [hlist] at hlisted
    refine ⟨0, ?_, ?_, ?_⟩
    · rw [cleared, deletions_unlisted hlist]
      rfl
    · rw [collect_unlisted hlist, List.take_zero, withoutDigests_nil]
      exact hlisted
    · rw [collect_unlisted hlist]
      rintro ⟨result, ⟨⟩⟩
  · obtain rfl := hkeeps.shows state listing (by rw [hlist])
    rw [hlist] at hlisted
    obtain ⟨count, outcome, hends, hcollect⟩ := exists_ends hlist retention
    obtain ⟨hdone, hstock⟩ := hends.cleared_eq hkeeps
    refine ⟨count, hdone, ?_, ?_⟩
    · rw [hcollect, hstock, hlisted]
    · rw [hcollect]
      exact fun ⟨result, hresult⟩ => hends.count_eq_length hresult

/-! ### The garbage that is left -/

lemma Retention.garbage_withoutDigests (retention : Retention)
    (manifests entries : List Manifest) :
    retention.garbage (withoutDigests manifests entries) =
      withoutDigests manifests (retention.garbage entries) :=
  List.filter_comm _ _ _

lemma withoutDigests_take {entries : List Manifest} (h : (entries.map Manifest.digest).Nodup)
    (count : ℕ) : withoutDigests (entries.take count) entries = entries.drop count := by
  have hsplit : entries.take count ++ entries.drop count = entries := List.take_append_drop _ _
  rw [← hsplit, List.map_append, List.nodup_append] at h
  obtain ⟨-, -, hapart⟩ := h
  have htaken : withoutDigests (entries.take count) (entries.take count) = [] :=
    List.filter_eq_nil_iff.mpr fun entry hentry => by
      rw [decide_eq_true_iff, not_not]
      exact List.mem_map_of_mem hentry
  have hleft : withoutDigests (entries.take count) (entries.drop count) = entries.drop count := by
    refine List.filter_eq_self.mpr fun entry hentry => decide_eq_true fun hmem => ?_
    exact hapart _ hmem _ (List.mem_map_of_mem hentry) rfl
  calc withoutDigests (entries.take count) entries
      = withoutDigests (entries.take count) (entries.take count) ++
          withoutDigests (entries.take count) (entries.drop count) := by
        rw [withoutDigests, withoutDigests, withoutDigests, ← List.filter_append, hsplit]
    _ = entries.drop count := by rw [htaken, hleft, List.nil_append]

/-- After a collection the garbage is what the collection has not deleted of it. -/
lemma Registry.Keeps.garbage_after (hkeeps : registry.Keeps stock) (retention : Retention)
    (hdistinct : ((stock state).map Manifest.digest).Nodup) :
    registry.cleared retention state ++
        retention.garbage (stock (collect registry retention false state).state) =
      retention.garbage (stock state) := by
  obtain ⟨count, hcleared, hstock, -⟩ := hkeeps.exists_count retention state
  have hgarbage : ((retention.garbage (stock state)).map Manifest.digest).Nodup :=
    hdistinct.sublist (List.filter_sublist.map _)
  rw [hcleared, hstock, Retention.garbage_withoutDigests, withoutDigests_take hgarbage,
    List.take_append_drop]

/-- A collection leaves the digests of the stock distinct. -/
lemma Registry.Keeps.distinct_after (hkeeps : registry.Keeps stock) (retention : Retention)
    (hdistinct : ((stock state).map Manifest.digest).Nodup) :
    ((stock (collect registry retention false state).state).map Manifest.digest).Nodup := by
  obtain ⟨count, -, hstock, -⟩ := hkeeps.exists_count retention state
  rw [hstock]
  exact hdistinct.sublist (List.filter_sublist.map _)

/-- A collection that succeeds leaves no garbage. -/
lemma Registry.Keeps.cleared_of_ok (hkeeps : registry.Keeps stock)
    (hok : ∃ result, (collect registry retention false state).result = .ok result) :
    registry.cleared retention state = retention.garbage (stock state) := by
  obtain ⟨count, hcleared, -, hall⟩ := hkeeps.exists_count retention state
  rw [hcleared, hall hok, List.take_length]

/-- A collection finds nothing to delete if there is no garbage. -/
lemma Registry.Keeps.idle (hkeeps : registry.Keeps stock)
    (hnone : retention.garbage (stock state) = []) :
    registry.deletions retention false state = [] ∧
      stock (collect registry retention false state).state = stock state := by
  obtain ⟨count, -, hstock, -⟩ := hkeeps.exists_count retention state
  rw [hnone, List.take_nil, withoutDigests_nil] at hstock
  refine ⟨?_, hstock⟩
  rcases hlist : registry.list state with ⟨listed, heard, failure | listing⟩
  · exact deletions_unlisted hlist retention false
  · obtain rfl := hkeeps.shows state listing (by rw [hlist])
    have hprefix := deletions_prefix_garbage (by rw [hlist]) retention false
    rw [hnone, List.prefix_nil, List.map_eq_nil_iff] at hprefix
    exact hprefix

/-! ### Collections that are taken up again -/

/-- Collections that fail, one after the other, and then one that succeeds: the state before
the first, the manifests that they delete in order, and the state after the last. -/
inductive Registry.Resumed (registry : Registry σ) (retention : Retention) :
    σ → List Manifest → σ → Prop
  | completed {state : σ}
      (hok : ∃ result, (collect registry retention false state).result = .ok result) :
      Resumed registry retention state (registry.cleared retention state)
        (collect registry retention false state).state
  | interrupted {state last : σ} {deleted : List Manifest}
      (hfails : ∃ failure, (collect registry retention false state).result = .error failure)
      (hrest : Resumed registry retention (collect registry retention false state).state deleted
        last) :
      Resumed registry retention state (registry.cleared retention state ++ deleted) last

/-- Collections that are taken up again until one succeeds delete all garbage together, and
leave none. -/
lemma Registry.Resumed.deleted_eq {last : σ} {deleted : List Manifest}
    (hkeeps : registry.Keeps stock) (h : registry.Resumed retention state deleted last)
    (hdistinct : ((stock state).map Manifest.digest).Nodup) :
    deleted = retention.garbage (stock state) ∧ retention.garbage (stock last) = [] := by
  induction h with
  | completed hok =>
      have hafter := hkeeps.garbage_after retention hdistinct
      have hall := hkeeps.cleared_of_ok hok
      rw [hall] at hafter
      exact ⟨hall, List.append_right_eq_self.mp hafter⟩
  | interrupted hfails hrest ih =>
      obtain ⟨hdeleted, hnone⟩ := ih (hkeeps.distinct_after retention hdistinct)
      rw [hdeleted]
      exact ⟨hkeeps.garbage_after retention hdistinct, hnone⟩

/-- A collection that is interrupted can be taken up again.  It has deleted a first part of the
garbage, and the garbage of the new listing is the other part.  So collections that fail,
followed by one that succeeds, delete just the garbage of the first listing, each manifest once
and in order.  Another collection then deletes nothing and changes nothing. -/
theorem interrupted_collection_resumes {σ : Type} {registry : Registry σ}
    {stock : σ → List Manifest} (h : registry.Keeps stock) (retention : Retention) (state : σ)
    (hdistinct : ((stock state).map Manifest.digest).Nodup) :
    (registry.cleared retention state <+: retention.garbage (stock state) ∧
      retention.garbage (stock (collect registry retention false state).state) =
        (retention.garbage (stock state)).drop (registry.cleared retention state).length) ∧
    ∀ deleted last, registry.Resumed retention state deleted last →
      deleted = retention.garbage (stock state) ∧ (deleted.map Manifest.digest).Nodup ∧
      registry.deletions retention false last = [] ∧
      stock (collect registry retention false last).state = stock last := by
  refine ⟨?_, fun deleted last hresumed => ?_⟩
  · have hafter := h.garbage_after retention hdistinct
    exact ⟨⟨_, hafter⟩, by rw [← hafter, List.drop_left]⟩
  · obtain ⟨rfl, hnone⟩ := hresumed.deleted_eq h hdistinct
    obtain ⟨hdeletions, hstock⟩ := h.idle hnone
    exact ⟨rfl, hdistinct.sublist (List.filter_sublist.map _), hdeletions, hstock⟩

/-! ### A registry whose deletions fail now and then -/

/-- Manifests that can be deleted, and whether each of the next deletions fails. -/
structure Registry.Shelf where
  stock : List Manifest
  failing : List Bool
  deriving DecidableEq

/-- The registry of such manifests.  Deletions beyond those told of succeed. -/
def Registry.shelf : Registry Registry.Shelf where
  list shelf := ⟨shelf, [], .ok shelf.stock⟩
  delete manifest shelf :=
    if shelf.failing.headD false then
      ⟨⟨shelf.stock, shelf.failing.tail⟩, [], .error (.of (Memory.refusal manifest.digest))⟩
    else ⟨⟨withoutDigest manifest shelf.stock, shelf.failing.tail⟩, [], .ok ()⟩

lemma Registry.shelf_keeps : Registry.shelf.Keeps Shelf.stock where
  shows := by
    rintro shelf listing ⟨⟩
    rfl
  list _ := rfl
  delete_ok manifest shelf hok := by
    rw [Registry.shelf] at hok ⊢
    dsimp only at hok ⊢
    split at hok
    · cases hok
    · rename_i hfailing
      rw [if_neg hfailing]
  delete_error manifest shelf failure hfails := by
    rw [Registry.shelf] at hfails ⊢
    dsimp only at hfails ⊢
    split at hfails
    · rename_i hfailing
      rw [if_pos hfailing]
    · cases hfails

/-- Three manifests are garbage.  The first collection fails after one deletion, the second at
once, and the third one deletes the two that are left. -/
theorem interrupted_collection_resumes_shelf :
    let retention : Retention :=
      ⟨.ofList [⟨"live"⟩], 0, ⟨17683, 0, 0, by decide, by decide, by decide, by decide, by decide⟩⟩
    let published : Instant :=
      ⟨17532, 0, 0, by decide, by decide, by decide, by decide, by decide⟩
    let manifest (digest : String) (tags : List String) : Manifest := ⟨digest, tags, published⟩
    let garbage := [manifest "a" [], manifest "b" [], manifest "c" []]
    let shelf : Registry.Shelf :=
      ⟨manifest "k" ["live"] :: garbage, [false, true, true, false, false]⟩
    Registry.shelf.Keeps Registry.Shelf.stock ∧ (shelf.stock.map Manifest.digest).Nodup ∧
      ∃ last, Registry.shelf.Resumed retention shelf garbage last ∧
        retention.garbage shelf.stock = garbage ∧
        Registry.shelf.deletions retention false last = [] := by
  intro retention published manifest garbage shelf
  have hdistinct : (shelf.stock.map Manifest.digest).Nodup := by decide
  have hsteps : Registry.shelf.Resumed retention shelf _ _ :=
    .interrupted ⟨_, rfl⟩ (.interrupted ⟨_, rfl⟩ (.completed ⟨_, rfl⟩))
  obtain ⟨-, hresumed⟩ :=
    interrupted_collection_resumes Registry.shelf_keeps retention shelf hdistinct
  obtain ⟨hdeleted, -, hidle, -⟩ := hresumed _ _ hsteps
  have hgarbage : retention.garbage shelf.stock = garbage := by decide +kernel
  rw [hdeleted.trans hgarbage] at hsteps
  exact ⟨Registry.shelf_keeps, hdistinct, _, hsteps, hgarbage, hidle⟩

end ImageRetention
