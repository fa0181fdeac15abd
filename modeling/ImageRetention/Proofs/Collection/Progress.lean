import Mathlib.Tactic
import ImageRetention.Proofs.Collection.Deletions

/-!
How far a collection comes.

* `Collection.Swept`: manifests that were deleted one after the other, each reported before the
  next deletion is begun;
* `Swept.deleteEach_eq`, `Swept.deleteEach_stopped`: what deletions do if none fails, and if one
  fails after some;
* `exists_swept`: there is no third way;
* `Collection.Ends`: how deletions end, with the number of those that were made, and the calls;
* `collect_unlisted`, `collect_dry`, `exists_ends`: all that a collection does, if its listing
  fails, on a dry run, and otherwise.

The events of the registry itself are kept apart from those of the collection, so what is shown
holds for registries that leave any events whatsoever.
-/

namespace ImageRetention

variable {σ : Type}

namespace Collection

variable {registry : Registry σ} {state middle after last : σ} {manifest : Manifest}
  {manifests rest : List Manifest} {events record : List Event} {failure : Failure}

/-- Manifests were deleted one after the other: the state before, the manifests, the events and
the state afterwards.  Each of them is reported after its own deletion and before the next one
is begun. -/
inductive Swept (registry : Registry σ) : σ → List Manifest → List Event → σ → Prop
  | none (state : σ) : Swept registry state [] [] state
  | next {state middle after : σ} {manifest : Manifest} {rest : List Manifest}
      {events more : List Event}
      (hdelete : registry.delete manifest state = ⟨middle, events, .ok ()⟩)
      (hrest : Swept registry middle rest more after) :
      Swept registry state (manifest :: rest)
        (.deleting manifest :: (events ++ .deleted manifest :: .reported manifest :: more)) after

/-! ### Single deletions -/

lemma deleteOne_ok (h : registry.delete manifest state = ⟨after, events, .ok ()⟩) :
    deleteOne registry manifest state =
      ⟨after, .deleting manifest :: (events ++ [.deleted manifest, .reported manifest]),
        .ok ()⟩ := by
  rw [deleteOne, Run.bind_ok (Run.emit_apply _ _), Run.bind_ok h,
    Run.bind_ok (Run.emit_apply _ _)]
  rfl

lemma deleteOne_error (h : registry.delete manifest state = ⟨after, events, .error failure⟩) :
    deleteOne registry manifest state = ⟨after, .deleting manifest :: events, .error failure⟩ := by
  rw [deleteOne, Run.bind_ok (Run.emit_apply _ _), Run.bind_error h]
  rfl

/-! ### Deletions in a row -/

/-- After manifests that can be deleted come the deletions of the others. -/
lemma Swept.deleteEach_append (h : Swept registry state manifests record after)
    (rest : List Manifest) :
    deleteEach registry (manifests ++ rest) state =
      ⟨(deleteEach registry rest after).state, record ++ (deleteEach registry rest after).events,
        (deleteEach registry rest after).result⟩ := by
  induction h with
  | none state => rfl
  | next hdelete hrest ih =>
      rw [List.cons_append, deleteEach, Run.bind_ok (deleteOne_ok hdelete), ih]
      simp

/-- Manifests that can all be deleted are all deleted. -/
lemma Swept.deleteEach_eq (h : Swept registry state manifests record after) :
    deleteEach registry manifests state = ⟨after, record, .ok ()⟩ := by
  have happend := h.deleteEach_append []
  rw [List.append_nil] at happend
  rw [happend, deleteEach, Run.pure_apply, List.append_nil]

/-- A deletion that fails is the last. -/
lemma Swept.deleteEach_stopped (h : Swept registry state manifests record after)
    (hfails : registry.delete manifest after = ⟨last, events, .error failure⟩)
    (rest : List Manifest) :
    deleteEach registry (manifests ++ manifest :: rest) state =
      ⟨last, record ++ .deleting manifest :: events, .error failure⟩ := by
  rw [h.deleteEach_append, deleteEach, Run.bind_error (deleteOne_error hfails)]

/-- Either all manifests can be deleted in order, or the deletion of one of them fails after
that of the ones before it. -/
lemma exists_swept (registry : Registry σ) (manifests : List Manifest) (state : σ) :
    (∃ record after, Swept registry state manifests record after) ∨
      ∃ before manifest rest record after last events failure,
        manifests = before ++ manifest :: rest ∧ Swept registry state before record after ∧
          registry.delete manifest after = ⟨last, events, .error failure⟩ := by
  induction manifests generalizing state with
  | nil => exact Or.inl ⟨[], state, .none state⟩
  | cons manifest rest ih =>
      rcases hdelete : registry.delete manifest state with ⟨middle, events, failure | ⟨⟩⟩
      · exact Or.inr ⟨[], manifest, rest, [], state, middle, events, failure, rfl, .none state,
          hdelete⟩
      · rcases ih middle with ⟨record, after, hswept⟩ |
          ⟨before, next, others, record, after, last, more, failure, rfl, hswept, hfails⟩
        · exact Or.inl ⟨_, after, .next hdelete hswept⟩
        · exact Or.inr ⟨manifest :: before, next, others, _, after, last, more, failure, rfl,
            .next hdelete hswept, hfails⟩

/-! ### The calls -/

/-- A deletion that was asked for and made. -/
def made (manifest : Manifest) : Deletion := ⟨manifest, .ok ()⟩

lemma traced_delete {result : Except Failure Unit}
    (h : registry.delete manifest state = ⟨after, events, result⟩) (trace : List Deletion) :
    registry.traced.delete manifest (state, trace) =
      ⟨(after, trace ++ [⟨manifest, result⟩]), events, result⟩ := by
  simp [Registry.traced, h]

lemma traced_list {result : Except Failure (List Manifest)}
    (h : registry.list state = ⟨after, events, result⟩) (trace : List Deletion) :
    registry.traced.list (state, trace) = ⟨(after, trace), events, result⟩ := by
  simp [Registry.traced, h]

/-- A registry that keeps its calls deletes the same manifests, and keeps their deletions. -/
lemma Swept.traced (h : Swept registry state manifests record after) (trace : List Deletion) :
    Swept registry.traced (state, trace) manifests record
      (after, trace ++ manifests.map made) := by
  induction h generalizing trace with
  | none state => simpa using (.none (state, trace) : Swept registry.traced _ _ _ _)
  | @next state middle after manifest rest events more hdelete hrest ih =>
      have hnext := Swept.next (traced_delete hdelete trace) (ih (trace ++ [made manifest]))
      rwa [List.append_assoc] at hnext

/-- How the deletion of garbage ends from a state on: the number of manifests that were
deleted, the deletions that were asked for, and the outcome.  Either all of the garbage is
deleted, or the first deletion that fails is the last one asked for. -/
inductive Ends (registry : Registry σ) (garbage : List Manifest) (start : σ) :
    ℕ → List Deletion → Outcome σ (List Manifest) → Prop
  | done {record : List Event} {after : σ} (hswept : Swept registry start garbage record after) :
      Ends registry garbage start garbage.length (garbage.map made) ⟨after, record, .ok garbage⟩
  | stopped {count : ℕ} {manifest : Manifest} {record events : List Event} {after last : σ}
      {failure : Failure} (hnext : garbage[count]? = some manifest)
      (hswept : Swept registry start (garbage.take count) record after)
      (hfails : registry.delete manifest after = ⟨last, events, .error failure⟩) :
      Ends registry garbage start count
        ((garbage.take count).map made ++ [⟨manifest, .error failure⟩])
        ⟨last, record ++ .deleting manifest :: events, .error failure⟩

namespace Ends

variable {garbage : List Manifest} {start : σ} {count : ℕ} {deletions : List Deletion}
  {outcome : Outcome σ (List Manifest)}

lemma count_le (h : Ends registry garbage start count deletions outcome) :
    count ≤ garbage.length := by
  cases h with
  | done => exact le_rfl
  | stopped hnext => exact (List.getElem?_eq_some_iff.mp hnext).1.le

/-- Deletions that end well have deleted all garbage, and only those. -/
lemma result_eq_ok_iff (h : Ends registry garbage start count deletions outcome) :
    outcome.result = .ok garbage ↔ count = garbage.length := by
  cases h with
  | done => simp
  | stopped hnext => simpa using (List.getElem?_eq_some_iff.mp hnext).1.ne

end Ends

/-! ### Whole collections -/

/-- What is said about a listing. -/
def announcement (retention : Retention) (listing : List Manifest) : List Event :=
  listing.filterMap retention.remark? ++
    [.logged ⟨.info, .retention, toString (retention.garbage listing).length ++ " of "
      ++ toString listing.length ++ " manifests are garbage"⟩]

lemma announce_apply (retention : Retention) (listing : List Manifest) (state : σ) :
    announce retention listing state = ⟨state, announcement retention listing, .ok ()⟩ := by
  have hremarks : (Run.emitEach id (listing.filterMap retention.remark?) : Run σ Unit) state =
      ⟨state, listing.filterMap retention.remark?, .ok ()⟩ := by
    rw [Run.emitEach, List.map_id]
  rw [announce, Run.bind_ok hremarks]
  rfl

end Collection

open Collection

variable {registry : Registry σ} {retention : Retention} {state listed after last : σ}
  {heard record events : List Event} {listing before rest : List Manifest} {manifest : Manifest}
  {failure : Failure}

/-- A collection ends with its listing if that fails. -/
lemma collect_unlisted (hlist : registry.list state = ⟨listed, heard, .error failure⟩)
    (retention : Retention) (dryRun : Bool) :
    collect registry retention dryRun state = ⟨listed, heard, .error failure⟩ := by
  rw [collect, Run.bind_error hlist]

/-- A dry run reports the garbage in order. -/
lemma collect_dry (hlist : registry.list state = ⟨listed, heard, .ok listing⟩)
    (retention : Retention) :
    collect registry retention true state =
      ⟨listed, heard ++ (announcement retention listing
        ++ (retention.garbage listing).map .reported), .ok (retention.garbage listing)⟩ := by
  have hreports : (Run.emitEach .reported (retention.garbage listing) : Run σ Unit) listed =
      ⟨listed, (retention.garbage listing).map .reported, .ok ()⟩ := rfl
  rw [collect, Run.bind_ok hlist, Run.bind_ok (announce_apply _ _ _), if_pos rfl,
    Run.bind_ok hreports]
  simp

/-- What a collection does that is no dry run: its deletions come after the announcement. -/
lemma collect_real (hlist : registry.list state = ⟨listed, heard, .ok listing⟩)
    (retention : Retention) :
    collect registry retention false state =
      ⟨(deleteEach registry (retention.garbage listing) listed).state,
        heard ++ (announcement retention listing
          ++ (deleteEach registry (retention.garbage listing) listed).events),
        (deleteEach registry (retention.garbage listing) listed).result.map fun _ =>
          retention.garbage listing⟩ := by
  rw [collect, Run.bind_ok hlist, Run.bind_ok (announce_apply _ _ _), if_neg Bool.false_ne_true]
  rcases h : deleteEach registry (retention.garbage listing) listed with ⟨after, events, result⟩
  cases result with
  | error failure => rw [Run.bind_error h]; rfl
  | ok value => rw [Run.bind_ok h]; simp [Except.map]

/-- A collection none of whose deletions fails. -/
lemma collect_done (hlist : registry.list state = ⟨listed, heard, .ok listing⟩)
    (hswept : Swept registry listed (retention.garbage listing) record after) :
    collect registry retention false state =
      ⟨after, heard ++ (announcement retention listing ++ record),
        .ok (retention.garbage listing)⟩ := by
  rw [collect_real hlist, hswept.deleteEach_eq]
  rfl

/-- A collection that stops at a deletion that fails. -/
lemma collect_stopped (hlist : registry.list state = ⟨listed, heard, .ok listing⟩)
    (hgarbage : retention.garbage listing = before ++ manifest :: rest)
    (hswept : Swept registry listed before record after)
    (hfails : registry.delete manifest after = ⟨last, events, .error failure⟩) :
    collect registry retention false state =
      ⟨last, heard ++ (announcement retention listing
        ++ (record ++ .deleting manifest :: events)), .error failure⟩ := by
  rw [collect_real hlist, hgarbage, hswept.deleteEach_stopped hfails]
  rfl

/-- The deletions of a collection end in one of the two ways, and what the collection does
besides is the listing and the announcement before them. -/
theorem exists_ends (hlist : registry.list state = ⟨listed, heard, .ok listing⟩)
    (retention : Retention) :
    ∃ count outcome,
      Ends registry (retention.garbage listing) listed count
          (registry.deletions retention false state) outcome ∧
        collect registry retention false state =
          ⟨outcome.state, heard ++ (announcement retention listing ++ outcome.events),
            outcome.result⟩ := by
  -- the registry that keeps its calls goes the same way, so its state tells the deletions
  have htraced := traced_list hlist []
  rcases exists_swept registry (retention.garbage listing) listed with ⟨record, after, hswept⟩ |
    ⟨before, manifest, rest, record, after, last, events, failure, hgarbage, hswept, hfails⟩
  · have hdeletions : registry.deletions retention false state =
        (retention.garbage listing).map made := by
      rw [Registry.deletions, collect_done htraced (hswept.traced []), List.nil_append]
    rw [hdeletions]
    exact ⟨_, _, .done hswept, collect_done hlist hswept⟩
  · have hdeletions : registry.deletions retention false state =
        before.map made ++ [⟨manifest, .error failure⟩] := by
      rw [Registry.deletions, collect_stopped htraced hgarbage (hswept.traced [])
        (traced_delete hfails _), List.nil_append]
    have hnext : (retention.garbage listing)[before.length]? = some manifest := by
      simp [hgarbage]
    have htake : (retention.garbage listing).take before.length = before := by
      rw [hgarbage, List.take_left]
    have htaken : Swept registry listed ((retention.garbage listing).take before.length)
        record after := by rwa [htake]
    have hends := Ends.stopped hnext htaken hfails
    rw [htake, ← hdeletions] at hends
    exact ⟨_, _, hends, collect_stopped hlist hgarbage hswept hfails⟩

end ImageRetention
