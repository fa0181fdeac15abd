import Mathlib.Tactic
import ImageRetention.LiveSet
import ImageRetention.Proofs.History.Asking
import ImageRetention.Proofs.LiveSet.Pool
import ImageRetention.Proofs.Extension

/-!
The questions that are asked of a history, whatever history it is.

* `History.traced`: a history that keeps the questions asked of it, with the answers it gave;
* `History.askings`: the questions that a run asks;
* `History.traced_hears`: an observer who writes down what is kept hears all questions;
* `extends_locate`, `extends_extract`, `extends_liveTags`: keeping the questions changes
  nothing about a resolution of live tags.
-/

namespace ImageRetention

variable {σ α β : Type}

/-- A history that keeps the questions asked of it, with the answers it gave. -/
def History.traced (history : History σ) : History (σ × List Asking) where
  commits root state :=
    let outcome := history.commits root state.1
    ⟨(outcome.state, state.2 ++ [.commits root outcome.result]), outcome.events, outcome.result⟩
  tree commit path state :=
    let outcome := history.tree commit path state.1
    ⟨(outcome.state, state.2 ++ [.tree commit path outcome.result]), outcome.events,
      outcome.result⟩
  content object state :=
    let outcome := history.content object state.1
    ⟨(outcome.state, state.2 ++ [.content object outcome.result]), outcome.events,
      outcome.result⟩

/-- The questions that a run asks of a history, in order and with their answers. -/
def History.askings (history : History σ)
    (run : History (σ × List Asking) → Run (σ × List Asking) α) (state : σ) : List Asking :=
  (run history.traced (state, [])).state.2

/-- What is written down of a run that asks questions is what it asks. -/
lemma History.shows_askings {history : History σ}
    {run : History (σ × List Asking) → Run (σ × List Asking) α}
    {post : List Asking → Except Failure α → Prop}
    (h : (Observer.kept σ Asking).Shows (run history.traced) post) (state : σ) :
    post (history.askings run state) (run history.traced (state, [])).result := by
  obtain ⟨record, hfits, hpost⟩ := h (state, [])
  obtain rfl : history.askings run state = record := hfits
  exact hpost

lemma History.traced_hears (history : History σ) :
    (Observer.kept σ Asking).Hears history.traced where
  commits _ _ := ⟨_, rfl, rfl⟩
  tree _ _ _ := ⟨_, rfl, rfl⟩
  content _ _ := ⟨_, rfl, rfl⟩

/-! ### Keeping the questions changes nothing else -/

open Run (extends_ofResult extends_pure extends_emit extends_emitEach)

section Pool

variable {τ : Type} [Labelled β]

lemma Pool.extends_settle {traced : α → Run (σ × τ) (List β)} {ask : α → Run σ (List β)}
    (h : ∀ item, Run.Extends (traced item) (ask item)) (limit : Nat) (schedule : Schedule)
    (step : Nat) (pool : Pool α β) :
    Run.Extends (settle limit traced schedule step pool) (settle limit ask schedule step pool) := by
  fun_induction settle limit ask schedule step pool with
  | case1 step pool starts moves hMoves =>
      rw [settle_of_no_moves hMoves]
      exact extends_pure _
  | case2 step pool starts moves hMoves choice hStart hIndex item ih =>
      rw [settle_of_start hStart rfl]
      exact (h item).attempt.bind ih
  | case3 step pool starts moves hMoves choice hStart hIndex failure hFailure =>
      rw [settle_of_stop hIndex (Nat.add_sub_of_le (Nat.not_lt.mp hStart)).symm hFailure]
      exact extends_ofResult _
  | case4 step pool starts moves hMoves choice hStart hIndex found hFound ih =>
      rw [settle_of_merge hIndex (Nat.add_sub_of_le (Nat.not_lt.mp hStart)).symm hFound]
      exact ih

lemma Pool.extends_gather {traced : α → Run (σ × τ) (List β)} {ask : α → Run σ (List β)}
    (h : ∀ item, Run.Extends (traced item) (ask item)) (limit : Nat) (schedule : Schedule)
    (items : List α) :
    Run.Extends (gather limit schedule traced items) (gather limit schedule ask items) :=
  extends_settle h limit schedule 0 (ofItems items)

end Pool

namespace LiveSet

variable (history : History σ)

lemma extends_resolveFrom (roots : List RootFilter) (known : SortedSet CommitId) :
    Run.Extends (resolveFrom history.traced known roots) (resolveFrom history known roots) := by
  induction roots generalizing known with
  | nil => exact extends_pure known
  | cons root rest ih =>
      have hasked : Run.Extends (history.traced.askCommits root) (history.askCommits root) :=
        fun _ _ => ⟨rfl, rfl, rfl⟩
      exact (extends_emit _).bind fun _ => (hasked.within _).bind fun _ =>
        (extends_emit _).bind fun _ => ih _

lemma extends_locateAt (path : String) (commit : CommitId) :
    Run.Extends (locateAt history.traced path commit) (locateAt history path commit) := by
  have hasked : Run.Extends (history.traced.askTree commit path) (history.askTree commit path) :=
    fun _ _ => ⟨rfl, rfl, rfl⟩
  exact (hasked.within _).bind fun listing => (extends_emitEach _ _).bind fun _ =>
    extends_ofResult _

lemma extends_locate (schedule : Schedule) (limit : Nat) (path : String)
    (commits : SortedSet CommitId) :
    Run.Extends (locate history.traced schedule limit path commits)
      (locate history schedule limit path commits) :=
  (Pool.extends_gather (extends_locateAt history path) limit schedule commits.toList).bind
    fun objects => (extends_emit _).bind fun _ => extends_pure objects

lemma extends_extractFrom (object : ObjectId) :
    Run.Extends (extractFrom history.traced object) (extractFrom history object) := by
  have hasked : Run.Extends (history.traced.askContent object) (history.askContent object) :=
    fun _ _ => ⟨rfl, rfl, rfl⟩
  exact (hasked.within _).bind fun content => (extends_emit _).bind fun _ => extends_pure _

lemma extends_extract (schedule : Schedule) (limit : Nat) (objects : List ObjectId) :
    Run.Extends (extract history.traced schedule limit objects)
      (extract history schedule limit objects) :=
  (Pool.extends_gather (extends_extractFrom history) limit schedule objects).bind
    fun references => (extends_emit _).bind fun _ => extends_pure references

end LiveSet

/-- Keeping the questions changes nothing about a resolution of live tags. -/
theorem extends_liveTags (history : History σ) (schedules : Schedules) (settings : Settings)
    (roots : List RootFilter) :
    Run.Extends (liveTags history.traced schedules settings roots)
      (liveTags history schedules settings roots) := by
  have hselected (references : SortedSet ImageReference) :
      Run.Extends (LiveSet.select settings.target references : Run (σ × List Asking) _)
        (LiveSet.select settings.target references) :=
    (extends_emitEach _ _).bind fun _ => (extends_ofResult _).bind fun _ => extends_pure _
  refine Run.Extends.bind ?_ hselected
  exact (LiveSet.extends_resolveFrom history roots .empty).bind fun commits =>
    (extends_emit _).bind fun _ => (LiveSet.extends_locate history _ _ _ commits).bind
      fun objects => (extends_emit _).bind fun _ => LiveSet.extends_extract history _ _ _

end ImageRetention
