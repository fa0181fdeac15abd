import Mathlib.Tactic
import ImageRetention.Run

/-!
What can be told of a run by someone who follows it, and a logic of runs built on that.

* `Observer`: which records fit a stretch of a run, so that the records of two stretches
  in a row fit the whole and log entries leave nothing in a record;
* `Observer.Shows`: every run of a computation has a record that satisfies a condition
  together with the result;
* `Shows.bind`, `Shows.within`, `Shows.attempt`, `Shows.ofResult`: one rule for each way to
  build a run, so that no later proof opens `Run` again.

The records are the observer's own: answers to questions for one, responses of programs for
another.  What is proved about a pipeline for an arbitrary observer holds for all of them.
-/

namespace ImageRetention

/-- Someone who follows a run and keeps a record. -/
structure Observer (σ ρ : Type) where
  /-- Whether a record fits a stretch of a run: the state before it, its events, and the
  state after it. -/
  Fits : σ → List Event → σ → List ρ → Prop
  /-- Nothing happened and nothing is written down. -/
  nil : ∀ state, Fits state [] state []
  /-- Two stretches in a row are recorded one after the other. -/
  append : ∀ {first middle last : σ} {events more : List Event} {record further : List ρ},
    Fits first events middle record → Fits middle more last further →
      Fits first (events ++ more) last (record ++ further)
  /-- Log entries are not written down. -/
  logged : ∀ state entry, Fits state [.logged entry] state []

namespace Observer

variable {σ ρ α β : Type}

/-! ### What a run shows -/

/-- The run from one state has a record that satisfies a condition with the result. -/
def ShowsAt (observer : Observer σ ρ) (run : Run σ α) (state : σ)
    (post : List ρ → Except Failure α → Prop) : Prop :=
  ∃ record, observer.Fits state (run state).events (run state).state record ∧
    post record (run state).result

/-- The run from any state has a record that satisfies a condition with the result. -/
def Shows (observer : Observer σ ρ) (run : Run σ α)
    (post : List ρ → Except Failure α → Prop) : Prop :=
  ∀ state, observer.ShowsAt run state post

/-- What a sequence of two parts shows: the first part fails, or both are done. -/
def Sequenced (first : List ρ → Except Failure α → Prop)
    (second : α → List ρ → Except Failure β → Prop) (record : List ρ)
    (result : Except Failure β) : Prop :=
  (∃ failure, first record (.error failure) ∧ result = .error failure) ∨
    ∃ value before after, record = before ++ after ∧ first before (.ok value) ∧
      second value after result

variable {observer : Observer σ ρ}

lemma ShowsAt.mono {run : Run σ α} {state : σ} {post weaker : List ρ → Except Failure α → Prop}
    (h : observer.ShowsAt run state post)
    (hle : ∀ record result, post record result → weaker record result) :
    observer.ShowsAt run state weaker := by
  obtain ⟨record, hfits, hpost⟩ := h
  exact ⟨record, hfits, hle _ _ hpost⟩

lemma Shows.mono {run : Run σ α} {post weaker : List ρ → Except Failure α → Prop}
    (h : observer.Shows run post)
    (hle : ∀ record result, post record result → weaker record result) :
    observer.Shows run weaker := fun state => (h state).mono hle

/-- What is known of the result of a run may be added to what it shows. -/
lemma Shows.and_result {run : Run σ α} {post : List ρ → Except Failure α → Prop}
    {expected : Except Failure α} (h : observer.Shows run post)
    (hresult : ∀ state, (run state).result = expected) :
    observer.Shows run fun record result => post record result ∧ result = expected := by
  intro state
  obtain ⟨record, hfits, hpost⟩ := h state
  exact ⟨record, hfits, hpost, hresult state⟩

/-! ### Events that are not written down -/

/-- Whether an observer passes over an event. -/
def Ignores (observer : Observer σ ρ) (event : Event) : Prop :=
  ∀ state, observer.Fits state [event] state []

lemma ignores_logged (entry : Log.Entry) : observer.Ignores (.logged entry) := fun state =>
  observer.logged state entry

lemma fits_of_ignores {events : List Event} (h : ∀ event ∈ events, observer.Ignores event)
    (state : σ) : observer.Fits state events state [] := by
  induction events with
  | nil => exact observer.nil state
  | cons event events ih =>
      have hfirst := h event (by simp) state
      have hrest := ih fun other hother => h other (by simp [hother])
      exact observer.append hfirst hrest

/-- A run that changes nothing and whose events are passed over leaves an empty record. -/
lemma showsAt_of_ignores {run : Run σ α} {state : σ} (hstate : (run state).state = state)
    (hevents : ∀ event ∈ (run state).events, observer.Ignores event) :
    observer.ShowsAt run state fun record result =>
      record = [] ∧ result = (run state).result := by
  refine ⟨[], ?_, rfl, rfl⟩
  rw [hstate]
  exact fits_of_ignores hevents state

/-! ### One rule for each way to build a run -/

lemma shows_ofResult (result : Except Failure α) :
    observer.Shows (Run.ofResult result : Run σ α) fun record shown =>
      record = [] ∧ shown = result := fun state =>
  ⟨[], observer.nil state, rfl, rfl⟩

lemma shows_pure (value : α) :
    observer.Shows (pure value : Run σ α) fun record result =>
      record = [] ∧ result = .ok value :=
  shows_ofResult (.ok value)

lemma shows_fail (failure : Failure) :
    observer.Shows (Run.fail failure : Run σ α) fun record result =>
      record = [] ∧ result = .error failure :=
  shows_ofResult (.error failure)

/-- A value with some property, without saying which. -/
lemma shows_pure_exists {p : α → Prop} {value : α} (h : p value) :
    observer.Shows (pure value : Run σ α) fun record result =>
      record = [] ∧ ∃ other, result = .ok other ∧ p other := by
  refine (shows_pure value).mono ?_
  rintro record result ⟨rfl, rfl⟩
  exact ⟨rfl, value, rfl, h⟩

lemma shows_ofExcept (result : Except Cause α) :
    observer.Shows (Run.ofExcept result : Run σ α) fun record shown =>
      record = [] ∧ shown = result.mapError Failure.of :=
  shows_ofResult _

lemma shows_emitEach {event : β → Event} {values : List β}
    (h : ∀ value ∈ values, observer.Ignores (event value)) :
    observer.Shows (Run.emitEach event values : Run σ Unit) fun record result =>
      record = [] ∧ result = .ok () := by
  intro state
  refine showsAt_of_ignores rfl ?_
  intro event hevent
  obtain ⟨value, hvalue, rfl⟩ := List.mem_map.mp hevent
  exact h value hvalue

lemma shows_emit {event : Event} (h : observer.Ignores event) :
    observer.Shows (Run.emit event : Run σ Unit) fun record result =>
      record = [] ∧ result = .ok () := fun state =>
  ⟨[], h state, rfl, rfl⟩

lemma shows_log (level : Log.Level) (source : Log.Source) (message : String) :
    observer.Shows (Run.log level source message : Run σ Unit) fun record result =>
      record = [] ∧ result = .ok () :=
  shows_emit (ignores_logged _)

lemma Shows.within {run : Run σ α} {post : List ρ → Except Failure α → Prop}
    (h : observer.Shows run post) (context : String) :
    observer.Shows (run.within context) fun record result => ∃ inner,
      post record inner ∧ result = inner.mapError fun failure => failure.within context := by
  intro state
  obtain ⟨record, hfits, hpost⟩ := h state
  exact ⟨record, hfits, _, hpost, rfl⟩

lemma Shows.attempt {run : Run σ α} {post : List ρ → Except Failure α → Prop}
    (h : observer.Shows run post) :
    observer.Shows run.attempt fun record result =>
      ∃ inner, post record inner ∧ result = .ok inner := by
  intro state
  obtain ⟨record, hfits, hpost⟩ := h state
  exact ⟨record, hfits, _, hpost, rfl⟩

/-- A sequence shows what its parts show, the second part only if the first one succeeds.
What is known of the first part's result at this very state may be used for the second. -/
lemma ShowsAt.bind {run : Run σ α} {next : α → Run σ β} {state : σ}
    {first : List ρ → Except Failure α → Prop}
    {second : α → List ρ → Except Failure β → Prop}
    (hfirst : observer.ShowsAt run state first)
    (hsecond : ∀ value, (run state).result = .ok value →
      observer.Shows (next value) (second value)) :
    observer.ShowsAt (run >>= next) state (Sequenced first second) := by
  obtain ⟨record, hfits, hpost⟩ := hfirst
  rcases hrun : run state with ⟨middle, events, result⟩
  rw [hrun] at hfits hpost
  cases result with
  | error failure =>
      rw [ShowsAt, Run.bind_error hrun]
      exact ⟨record, hfits, Or.inl ⟨failure, hpost, rfl⟩⟩
  | ok value =>
      obtain ⟨further, hmore, hlast⟩ := hsecond value (by rw [hrun]) middle
      rw [ShowsAt, Run.bind_ok hrun]
      exact ⟨record ++ further, observer.append hfits hmore,
        Or.inr ⟨value, record, further, rfl, hpost, hlast⟩⟩

lemma Shows.bind {run : Run σ α} {next : α → Run σ β}
    {first : List ρ → Except Failure α → Prop}
    {second : α → List ρ → Except Failure β → Prop}
    (hfirst : observer.Shows run first)
    (hsecond : ∀ value, observer.Shows (next value) (second value)) :
    observer.Shows (run >>= next) (Sequenced first second) := fun state =>
  (hfirst state).bind fun value _ => hsecond value

/-- What comes after a part that is not written down and succeeds stands alone. -/
lemma Shows.after_silent {run : Run σ α} {value : α} {next : α → Run σ β}
    {post : List ρ → Except Failure β → Prop}
    (hfirst : observer.Shows run fun record result => record = [] ∧ result = .ok value)
    (hnext : observer.Shows (next value) post) :
    observer.Shows (run >>= next) post := by
  intro state
  obtain ⟨record, hfits, rfl, hresult⟩ := hfirst state
  rcases hrun : run state with ⟨middle, events, result⟩
  rw [hrun] at hfits hresult
  obtain rfl : result = .ok value := hresult
  obtain ⟨further, hmore, hlast⟩ := hnext middle
  rw [ShowsAt, Run.bind_ok hrun]
  exact ⟨further, observer.append hfits hmore, hlast⟩

/-- Changing the value of a run leaves its record alone. -/
lemma Shows.map {run : Run σ α} {post : List ρ → Except Failure α → Prop}
    (h : observer.Shows run post) (f : α → β) :
    observer.Shows (f <$> run) fun record result =>
      ∃ inner, post record inner ∧ result = inner.map f := by
  rw [map_eq_pure_bind]
  refine (h.bind fun value => shows_pure (f value)).mono ?_
  rintro record result (⟨failure, hpost, rfl⟩ | ⟨value, before, after, rfl, hpost, rfl, rfl⟩)
  · exact ⟨.error failure, hpost, rfl⟩
  · exact ⟨.ok value, by simpa using hpost, rfl⟩

/-- A log entry after a run leaves what it shows as it is. -/
lemma Shows.then_log {run : Run σ α} {post : List ρ → Except Failure α → Prop}
    (h : observer.Shows run post) (level : Log.Level) (source : Log.Source)
    (message : α → String) :
    observer.Shows (run >>= fun value => Run.log level source (message value) >>= fun _ =>
      pure value) post := by
  refine (h.bind fun value => (shows_log _ _ _).after_silent (shows_pure value)).mono ?_
  rintro record result (⟨failure, hpost, rfl⟩ | ⟨value, before, after, rfl, hpost, rfl, rfl⟩)
  · exact hpost
  · simpa using hpost

/-! ### Records without their last entry -/

lemma forall_mem_dropLast_cons {p : ρ → Prop} {entry : ρ} {record : List ρ} (h : p entry)
    (hrecord : ∀ other ∈ record.dropLast, p other) :
    ∀ other ∈ (entry :: record).dropLast, p other := by
  cases record with
  | nil => simp
  | cons next rest =>
      rw [List.dropLast_cons_cons]
      exact List.forall_mem_cons.mpr ⟨h, hrecord⟩

end Observer

end ImageRetention
