import ImageRetention.Event
import ImageRetention.Failure

/-
Runs: computations that act on an outside world, leave events, and may fail.

* `Outcome`: the world after a run, the events in order, and the value or the failure;
* `Run`: a computation from a world to an outcome, with failures as exceptions;
* `Run.emit`, `Run.within`, `Run.attempt`: leaving an event, putting a context around the
  failures of a run, and turning its failures into values;
* the monad laws: runs are sequences, whatever their brackets;
* `bind_ok`, `bind_error`: a sequence leaves the events of both parts, and stops at a failure.
-/

namespace ImageRetention

/-- What a run amounts to. -/
structure Outcome (σ α : Type) where
  /-- The outside world afterwards. -/
  state : σ
  /-- The events in order. -/
  events : List Event
  result : Except Failure α

/-- A computation on an outside world. -/
def Run (σ α : Type) : Type := σ → Outcome σ α

namespace Run

variable {σ α β : Type}

/-- A run that only gives a value. -/
protected def pure (value : α) : Run σ α := fun state => ⟨state, [], .ok value⟩

/-- A run and, if it succeeds, another one after it. -/
protected def bind (run : Run σ α) (next : α → Run σ β) : Run σ β := fun state =>
  let first := run state
  match first.result with
  | .error failure => ⟨first.state, first.events, .error failure⟩
  | .ok value =>
    let second := next value first.state
    ⟨second.state, first.events ++ second.events, second.result⟩

instance : Monad (Run σ) where
  pure := Run.pure
  bind := Run.bind

/-! ### Building runs -/

/-- A run that fails. -/
def fail (failure : Failure) : Run σ α := fun state => ⟨state, [], .error failure⟩

/-- A run that fails for a cause. -/
def failFor (cause : Cause) : Run σ α := fail (.of cause)

/-- A run that leaves one event. -/
def emit (event : Event) : Run σ Unit := fun state => ⟨state, [event], .ok ()⟩

/-- A run that leaves a log entry. -/
def log (level : Log.Level) (source : Log.Source) (message : String) : Run σ Unit :=
  emit (.logged ⟨level, source, message⟩)

/-- A run that leaves one event for each of some values. -/
def emitEach (event : α → Event) (values : List α) : Run σ Unit := fun state =>
  ⟨state, values.map event, .ok ()⟩

/-- A run that gives a result known beforehand. -/
def ofResult (result : Except Failure α) : Run σ α := fun state => ⟨state, [], result⟩

/-- A run that gives a result known beforehand, or fails for a cause. -/
def ofExcept (result : Except Cause α) : Run σ α :=
  ofResult (result.mapError Failure.of)

/-- A run whose failures say what was being done. -/
def within (context : String) (run : Run σ α) : Run σ α := fun state =>
  let outcome := run state
  ⟨outcome.state, outcome.events, outcome.result.mapError fun failure => failure.within context⟩

/-- A run whose failures are values. -/
def attempt (run : Run σ α) : Run σ (Except Failure α) := fun state =>
  let outcome := run state
  ⟨outcome.state, outcome.events, .ok outcome.result⟩

/-- A run whose failures are replaced by another run. -/
def orElse (run : Run σ α) (handler : Failure → Run σ α) : Run σ α := do
  match ← run.attempt with
  | .ok value => pure value
  | .error failure => handler failure

/-! ### Laws -/

theorem bind_pure_eq (run : Run σ α) : Run.bind run Run.pure = run := by
  funext state
  unfold Run.bind Run.pure
  rcases h : run state with ⟨after, events, result⟩
  cases result <;> simp

theorem bind_assoc_eq {γ : Type} (run : Run σ α) (next : α → Run σ β) (last : β → Run σ γ) :
    Run.bind (Run.bind run next) last = Run.bind run fun value => Run.bind (next value) last := by
  funext state
  unfold Run.bind
  rcases h : run state with ⟨after, events, result⟩
  cases result with
  | error failure => rfl
  | ok value =>
    rcases hNext : next value after with ⟨final, more, outcome⟩
    cases outcome <;> simp [hNext]

instance : LawfulMonad (Run σ) :=
  LawfulMonad.mk' _ bind_pure_eq (fun _ _ => by funext; simp [bind, Run.bind, pure, Run.pure])
    bind_assoc_eq

@[simp] theorem pure_apply (value : α) (state : σ) :
    (pure value : Run σ α) state = ⟨state, [], .ok value⟩ := rfl

@[simp] theorem fail_apply (failure : Failure) (state : σ) :
    (fail failure : Run σ α) state = ⟨state, [], .error failure⟩ := rfl

@[simp] theorem emit_apply (event : Event) (state : σ) :
    emit event state = ⟨state, [event], .ok ()⟩ := rfl

/-- After a part that succeeds comes the next part. -/
theorem bind_ok {run : Run σ α} {next : α → Run σ β} {state after : σ} {events : List Event}
    {value : α} (h : run state = ⟨after, events, .ok value⟩) :
    (run >>= next) state =
      ⟨(next value after).state, events ++ (next value after).events,
        (next value after).result⟩ := by
  show Run.bind run next state = _
  simp [Run.bind, h]

/-- A sequence stops at a part that fails. -/
theorem bind_error {run : Run σ α} {next : α → Run σ β} {state after : σ}
    {events : List Event} {failure : Failure} (h : run state = ⟨after, events, .error failure⟩) :
    (run >>= next) state = ⟨after, events, .error failure⟩ := by
  show Run.bind run next state = _
  simp [Run.bind, h]

end Run

end ImageRetention
