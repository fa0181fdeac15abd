import Mathlib.Tactic
import ImageRetention.Command
import ImageRetention.Proofs.Observer

/-!
The transcript of a run: what it does outside the program, and what came of it.

* `Call`, `Exchange`: a run of a program or a read of a listing, and the same with its outcome;
* `World.transcript`: the exchanges behind the events of a run, by playing the events back;
* `World.observer`: the observer who writes down the transcript;
* `map_call_transcript`, `exists_respond`: the calls of a transcript are those of the events,
  and its responses are those that the world gives.

A world changes only when a program is run, so its state after some events follows from the
events, and so do the responses.
-/

namespace ImageRetention

/-! ### Calls -/

/-- Something that a run does outside the program. -/
inductive Call
  /-- A program is run. -/
  | run (invocation : Invocation)
  /-- A manifest listing is read from a file. -/
  | read (path : String)
  deriving DecidableEq, Repr

/-- The call that an event is. -/
def Event.call? : Event → Option Call
  | .invoked invocation => some (.run invocation)
  | .listingRead path => some (.read path)
  | _ => none

/-- A call and what came of it. -/
inductive Exchange
  | ran (invocation : Invocation) (response : Response)
  | read (path : String) (contents : Except IoError (List UInt8))

namespace Exchange

/-- The call. -/
def call : Exchange → Call
  | ran invocation _ => .run invocation
  | read path _ => .read path

/-- Whether a call had the success that is asked of it: a program must end well, and before
its time is over. -/
def Succeeded : Exchange → Prop
  | ran _ response => response.isSuccess = true ∧ response.millis < Command.standardLimit
  | read _ contents => ∃ bytes, contents = .ok bytes

/-- What a program printed, or what is in a file. -/
def output : Exchange → List UInt8
  | ran _ response => response.stdout
  | read _ contents => contents.toOption.getD []

/-- A call that gave some bytes as it should. -/
def Gave (exchange : Exchange) (call : Call) (bytes : List UInt8) : Prop :=
  exchange.call = call ∧ exchange.Succeeded ∧ exchange.output = bytes

end Exchange

/-! ### Transcripts -/

namespace World

variable {σ α β : Type}

/-- The state of a world after some events. -/
def after (world : World σ) : σ → List Event → σ
  | state, [] => state
  | state, .invoked invocation :: events => world.after (world.respond state invocation).1 events
  | state, _ :: events => world.after state events

/-- The exchanges behind some events. -/
def transcript (world : World σ) : σ → List Event → List Exchange
  | _, [] => []
  | state, .invoked invocation :: events =>
    .ran invocation (world.respond state invocation).2 ::
      world.transcript (world.respond state invocation).1 events
  | state, .listingRead path :: events =>
    .read path (world.contents path) :: world.transcript state events
  | state, _ :: events => world.transcript state events

lemma after_append (world : World σ) (state : σ) (events more : List Event) :
    world.after state (events ++ more) = world.after (world.after state events) more := by
  fun_induction after world state events with
  | case1 state => simp
  | case2 state invocation events ih => simpa [after] using ih
  | case3 state event events hevent ih => simpa [after] using ih

lemma transcript_append (world : World σ) (state : σ) (events more : List Event) :
    world.transcript state (events ++ more) =
      world.transcript state events ++ world.transcript (world.after state events) more := by
  fun_induction transcript world state events with
  | case1 state => simp [after]
  | case2 state invocation events ih => simp [transcript, after, ih]
  | case3 state path events ih => simp [transcript, after, ih]
  | case4 state event events hinvoked hread ih => simp [transcript, after, ih]

/-- The observer who writes down the transcript. -/
def observer (world : World σ) : Observer σ Exchange where
  Fits first events last record :=
    world.after first events = last ∧ world.transcript first events = record
  nil state := ⟨rfl, rfl⟩
  append := by
    rintro first middle last events more record further ⟨rfl, rfl⟩ ⟨rfl, rfl⟩
    exact ⟨world.after_append first events more, world.transcript_append first events more⟩
  logged state entry := ⟨rfl, rfl⟩

/-- The calls of a transcript are those of the events, in order. -/
lemma map_call_transcript (world : World σ) (state : σ) (events : List Event) :
    (world.transcript state events).map Exchange.call = events.filterMap Event.call? := by
  fun_induction transcript world state events with
  | case1 state => rfl
  | case2 state invocation events ih => simpa [Event.call?, Exchange.call] using ih
  | case3 state path events ih => simpa [Event.call?, Exchange.call] using ih
  | case4 state event events hinvoked hread ih =>
      have hcall : event.call? = none := by
        cases event <;> first | rfl | exact absurd rfl (hinvoked _) | exact absurd rfl (hread _)
      simpa [hcall] using ih

/-- Every run of a program is in the transcript. -/
lemma mem_transcript_of_invoked (world : World σ) (state : σ) {events : List Event}
    {invocation : Invocation} (h : .invoked invocation ∈ events) :
    ∃ exchange ∈ world.transcript state events, exchange.call = .run invocation := by
  rw [← List.mem_map, map_call_transcript]
  exact List.mem_filterMap.mpr ⟨_, h, rfl⟩

/-- The responses in a transcript are those that the world gives. -/
lemma exists_respond (world : World σ) {state : σ} {events : List Event}
    {invocation : Invocation} {response : Response}
    (h : .ran invocation response ∈ world.transcript state events) :
    ∃ before, (world.respond before invocation).2 = response := by
  fun_induction transcript world state events with
  | case1 state => simp at h
  | case2 state other events ih =>
      rcases List.mem_cons.mp h with hEq | h
      · cases hEq
        exact ⟨state, rfl⟩
      · exact ih h
  | case3 state path events ih => exact ih (by simpa using h)
  | case4 state event events hinvoked hread ih => exact ih h

end World

end ImageRetention
