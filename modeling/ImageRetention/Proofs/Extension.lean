import Mathlib.Tactic
import ImageRetention.Proofs.Observer

/-!
Runs that keep something extra and are otherwise the same as others.

* `Run.Extends`: a run does the same as another one, next to something that the other has not;
* `extends_pure`, `extends_emit`, `Extends.bind`, `Extends.within`, `Extends.attempt`: one rule
  for each way to build a run;
* `Observer.kept`: the observer who writes down what is kept.

A history may so be replaced by one that keeps the questions asked of it, and nothing that is
seen of a run changes.
-/

namespace ImageRetention

variable {σ τ α β : Type}

/-- A run does the same as another one, next to something that the other one has not. -/
def Run.Extends (traced : Run (σ × τ) α) (run : Run σ α) : Prop :=
  ∀ state trace, (traced (state, trace)).state.1 = (run state).state ∧
    (traced (state, trace)).events = (run state).events ∧
    (traced (state, trace)).result = (run state).result

namespace Run

lemma extends_ofResult (result : Except Failure α) :
    Extends (Run.ofResult result : Run (σ × τ) α) (Run.ofResult result) :=
  fun _ _ => ⟨rfl, rfl, rfl⟩

lemma extends_pure (value : α) : Extends (pure value : Run (σ × τ) α) (pure value) :=
  extends_ofResult (.ok value)

lemma extends_emit (event : Event) : Extends (Run.emit event : Run (σ × τ) Unit) (Run.emit event) :=
  fun _ _ => ⟨rfl, rfl, rfl⟩

lemma extends_emitEach (event : α → Event) (values : List α) :
    Extends (Run.emitEach event values : Run (σ × τ) Unit) (Run.emitEach event values) :=
  fun _ _ => ⟨rfl, rfl, rfl⟩

lemma Extends.within {traced : Run (σ × τ) α} {run : Run σ α} (h : Extends traced run)
    (context : String) : Extends (traced.within context) (run.within context) := by
  intro state trace
  obtain ⟨hstate, hevents, hresult⟩ := h state trace
  refine ⟨hstate, hevents, ?_⟩
  rw [Run.within, Run.within, hresult]

lemma Extends.attempt {traced : Run (σ × τ) α} {run : Run σ α} (h : Extends traced run) :
    Extends traced.attempt run.attempt := by
  intro state trace
  obtain ⟨hstate, hevents, hresult⟩ := h state trace
  refine ⟨hstate, hevents, ?_⟩
  rw [Run.attempt, Run.attempt, hresult]

lemma Extends.bind {traced : Run (σ × τ) α} {run : Run σ α} {tracedNext : α → Run (σ × τ) β}
    {next : α → Run σ β} (h : Extends traced run)
    (hnext : ∀ value, Extends (tracedNext value) (next value)) :
    Extends (traced >>= tracedNext) (run >>= next) := by
  intro state trace
  obtain ⟨hstate, hevents, hresult⟩ := h state trace
  rcases hrun : run state with ⟨middle, events, result⟩
  rcases htraced : traced (state, trace) with ⟨⟨other, more⟩, others, shown⟩
  rw [hrun, htraced] at hstate hevents hresult
  obtain rfl : other = middle := hstate
  obtain rfl : others = events := hevents
  obtain rfl : shown = result := hresult
  cases shown with
  | error failure =>
      rw [Run.bind_error hrun, Run.bind_error htraced]
      exact ⟨rfl, rfl, rfl⟩
  | ok value =>
      obtain ⟨hstate, hevents, hresult⟩ := hnext value other more
      rw [Run.bind_ok hrun, Run.bind_ok htraced]
      exact ⟨hstate, by rw [hevents], hresult⟩

end Run

/-- The observer who writes down what a run keeps. -/
def Observer.kept (σ ρ : Type) : Observer (σ × List ρ) ρ where
  Fits first _ last record := last.2 = first.2 ++ record
  nil := by simp
  append := by
    intro first middle last events more record further hfirst hlast
    rw [hlast, hfirst, List.append_assoc]
  logged := by simp

end ImageRetention
