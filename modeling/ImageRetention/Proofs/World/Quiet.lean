import Mathlib.Tactic
import ImageRetention.Proofs.World.Transcript
import ImageRetention.Sweep

/-!
Runs that make no call.

* `Run.Quiet`: a run that does the same in every state, leaves the state as it is, and only
  logs or reads settings;
* `Quiet.bind`, `Quiet.within`: parts that are quiet make a quiet whole;
* `quiet_effectiveSettings`: the settings of a sweep are found quietly;
* `Quiet.showsAt_bind`: what comes after a quiet run stands alone in the transcript.
-/

namespace ImageRetention

variable {σ α β : Type}

/-- Whether an event is neither a call nor a step of a collection. -/
def Event.IsQuiet : Event → Prop
  | .logged _ | .settingsRead _ => True
  | _ => False

namespace Run

/-- A run that does the same in every state, and makes no call. -/
def Quiet (run : Run σ α) : Prop :=
  ∃ events result, (∀ event ∈ events, event.IsQuiet) ∧
    ∀ state, run state = ⟨state, events, result⟩

lemma quiet_ofResult (result : Except Failure α) : (Run.ofResult result : Run σ α).Quiet :=
  ⟨[], result, by simp, fun _ => rfl⟩

lemma quiet_pure (value : α) : (pure value : Run σ α).Quiet := quiet_ofResult (.ok value)

lemma quiet_fail (failure : Failure) : (Run.fail failure : Run σ α).Quiet :=
  quiet_ofResult (.error failure)

lemma quiet_log (level : Log.Level) (source : Log.Source) (message : String) :
    (Run.log level source message : Run σ Unit).Quiet :=
  ⟨[.logged ⟨level, source, message⟩], .ok (), by simp [Event.IsQuiet], fun _ => rfl⟩

lemma Quiet.within {run : Run σ α} (h : run.Quiet) (context : String) :
    (run.within context).Quiet := by
  obtain ⟨events, result, hevents, hrun⟩ := h
  refine ⟨events, result.mapError fun failure => failure.within context, hevents, ?_⟩
  intro state
  rw [Run.within, hrun]

lemma Quiet.bind {run : Run σ α} {next : α → Run σ β} (h : run.Quiet)
    (hnext : ∀ value, (next value).Quiet) : (run >>= next).Quiet := by
  obtain ⟨events, result, hevents, hrun⟩ := h
  cases result with
  | error failure =>
      exact ⟨events, .error failure, hevents, fun state => Run.bind_error (hrun state)⟩
  | ok value =>
      obtain ⟨more, last, hmore, hlast⟩ := hnext value
      refine ⟨events ++ more, last, List.forall_mem_append.mpr ⟨hevents, hmore⟩, fun state => ?_⟩
      rw [Run.bind_ok (hrun state), hlast]

/-- What comes after a quiet run stands alone in the transcript. -/
lemma Quiet.showsAt_bind {world : World σ} {run : Run σ α} {next : α → Run σ β} {state : σ}
    {post : List Exchange → Except Failure β → Prop} (h : run.Quiet)
    (herror : ∀ failure, (run state).result = .error failure → post [] (.error failure))
    (hok : ∀ value, (run state).result = .ok value →
      world.observer.ShowsAt (next value) state post) :
    world.observer.ShowsAt (run >>= next) state post := by
  obtain ⟨events, result, hevents, hrun⟩ := h
  have hsilent : world.observer.Fits state events state [] := by
    refine Observer.fits_of_ignores (fun event hevent other => ?_) state
    cases event with
    | logged entry => exact ⟨rfl, rfl⟩
    | settingsRead path => exact ⟨rfl, rfl⟩
    | _ => exact (hevents _ hevent).elim
  rw [hrun state] at herror hok
  cases result with
  | error failure =>
      rw [Observer.ShowsAt, Run.bind_error (hrun state)]
      exact ⟨[], hsilent, herror failure rfl⟩
  | ok value =>
      obtain ⟨record, hfits, hpost⟩ := hok value rfl
      rw [Observer.ShowsAt, Run.bind_ok (hrun state)]
      exact ⟨record, world.observer.append hsilent hfits, hpost⟩

end Run

/-! ### Settings -/

open Run (quiet_pure quiet_fail quiet_log quiet_ofResult)

lemma Settings.quiet_readText (world : World σ) (path : String) :
    (Settings.readText world path).Quiet := by
  have hread : (world.read path (.settingsRead path)).Quiet :=
    ⟨[.settingsRead path], _, by simp [Event.IsQuiet], fun _ => rfl⟩
  refine hread.bind fun bytes => ?_
  cases Text.Utf8.decode? bytes with
  | some text => exact quiet_pure text
  | none => exact quiet_fail _

lemma Settings.quiet_loadFrom (world : World σ) (path : String) :
    (Settings.loadFrom world path).Quiet :=
  ((Settings.quiet_readText world path).within _).bind fun _ =>
    (quiet_ofResult _).bind fun _ => (quiet_log _ _ _).bind fun _ => quiet_pure _

lemma Settings.quiet_load (world : World σ) (asked : Option String) :
    (Settings.load world asked).Quiet := by
  rw [Settings.load]
  cases Settings.source world asked with
  | required path =>
      dsimp only
      split
      · exact Settings.quiet_loadFrom world path
      · exact quiet_fail _
  | optional path =>
      dsimp only
      split
      · exact Settings.quiet_loadFrom world path
      · exact (quiet_log _ _ _).bind fun _ => quiet_pure _
  | nowhere failure => exact (quiet_log _ _ _).bind fun _ => quiet_pure _

/-- The settings of a sweep are found quietly. -/
lemma quiet_effectiveSettings (world : World σ) (commandLine : CommandLine) :
    (effectiveSettings world commandLine).Quiet :=
  (Settings.quiet_load world commandLine.config).bind fun _ =>
    (quiet_log _ _ _).bind fun _ => quiet_pure _

end ImageRetention
