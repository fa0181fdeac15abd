import Mathlib.Tactic
import ImageRetention.Command.Azure
import ImageRetention.Command.Git
import ImageRetention.Proofs.World.Transcript

/-!
Single calls: what a run of git or of the Azure command line leaves in a transcript.

* `Called`: one call at most, and success just if the call has the success asked of it;
* `Completed`: given calls, all of which succeeded;
* `World.Blames`: the root of the failure of a call, told by what was exchanged for it;
* `Ended`: a single call that gave a value, or failed with a root that it is to blame for;
* `World.ends_invoke`, `World.ends_output`, `Git.ends_execute`, `Azure.ends_execute`: the runs
  of programs end so;
* `Git.shows_execute`: a run of git is a single call.

Failures are told by their roots, which no context that is put around them changes.
-/

namespace ImageRetention

open Observer (shows_log shows_fail shows_pure shows_pure_exists shows_emitEach ignores_logged)

variable {σ α β : Type}

/-! ### Single calls -/

/-- What a run that makes one call leaves behind.  The call may not come about, but then the
run fails; and the run succeeds only with what the call gave. -/
structure Called (call : Call) (gives : List UInt8 → α → Prop) (record : List Exchange)
    (result : Except Failure α) : Prop where
  calls : record.map Exchange.call <+: [call]
  of_ok : ∀ value, result = .ok value → ∃ exchange bytes,
    record = [exchange] ∧ exchange.Gave call bytes ∧ gives bytes value
  of_error : ∀ failure, result = .error failure → ∀ exchange ∈ record, ¬exchange.Succeeded

/-- Some exchanges are those of given calls, and all of them succeeded. -/
structure Completed (calls : List Call) (record : List Exchange) : Prop where
  calls_eq : record.map Exchange.call = calls
  succeeded : ∀ exchange ∈ record, exchange.Succeeded

namespace Called

variable {call : Call} {gives : List UInt8 → α → Prop}

lemma of_gave {exchange : Exchange} {bytes : List UInt8} {value : α}
    (h : exchange.Gave call bytes) (hgives : gives bytes value) :
    Called call gives [exchange] (.ok value) := by
  refine ⟨by simp [h.1], ?_, by simp⟩
  rintro _ ⟨⟩
  exact ⟨exchange, bytes, rfl, h, hgives⟩

end Called

/-! ### What a call is to blame for -/

/-- What is at the root of the failure of a call, given what was exchanged for it.  Processes
that ended unsuccessfully are worded as `wrap` says. -/
inductive World.Blames (world : World σ) (wrap : FailedProcess → Cause) (call : Call) :
    List Exchange → Root → Prop
  /-- The program ended in time, but unsuccessfully. -/
  | process {invocation : Invocation} {response : Response} (hcall : call = .run invocation)
      (hfails : ¬response.isSuccess = true) (htime : response.millis < Command.standardLimit) :
      Blames world wrap call [.ran invocation response]
        (.known (wrap (response.failedProcess invocation)))
  /-- The program did not end in time. -/
  | late {invocation : Invocation} {response : Response} (hcall : call = .run invocation)
      (hlate : ¬response.millis < Command.standardLimit) :
      Blames world wrap call [.ran invocation response]
        (.known (.timedOut invocation.text (Command.standardLimit / 1000)))
  /-- The program cannot be started. -/
  | unstarted {invocation : Invocation} {problem : IoError} (hcall : call = .run invocation)
      (hobstacle : world.obstacle? invocation = some problem) :
      Blames world wrap call [] (.io problem)
  /-- The file cannot be read. -/
  | unreadable {path : String} {problem : IoError} (hcall : call = .read path) :
      Blames world wrap call [.read path (.error problem)] (.io problem)

namespace World.Blames

variable {world : World σ} {wrap : FailedProcess → Cause} {call : Call} {record : List Exchange}
  {root : Root}

lemma calls (h : world.Blames wrap call record root) :
    record.map Exchange.call <+: [call] := by
  cases h with
  | process hcall => simp [Exchange.call, hcall]
  | late hcall => simp [Exchange.call, hcall]
  | unstarted => simp
  | unreadable hcall => simp [Exchange.call, hcall]

lemma not_succeeded (h : world.Blames wrap call record root) :
    ∀ exchange ∈ record, ¬exchange.Succeeded := by
  cases h with
  | process hcall hfails =>
      simp only [List.forall_mem_singleton]
      exact fun hsucceeded => hfails hsucceeded.1
  | late hcall hlate =>
      simp only [List.forall_mem_singleton]
      exact fun hsucceeded => hlate hsucceeded.2
  | unstarted => simp
  | unreadable =>
      simp only [List.forall_mem_singleton]
      rintro ⟨bytes, ⟨⟩⟩

end World.Blames

/-! ### Calls and their ends -/

/-- How a run that makes one call ends: with what the call gave, or with a failure that has at
its root what the call is to blame for. -/
inductive Ended (world : World σ) (wrap : FailedProcess → Cause) (call : Call)
    (gives : List UInt8 → α → Prop) : List Exchange → Except Failure α → Prop
  | gave {exchange : Exchange} {bytes : List UInt8} {value : α} (h : exchange.Gave call bytes)
      (hgives : gives bytes value) : Ended world wrap call gives [exchange] (.ok value)
  | failed {record : List Exchange} {failure : Failure}
      (h : world.Blames wrap call record failure.root) :
      Ended world wrap call gives record (.error failure)

namespace Ended

variable {world : World σ} {wrap : FailedProcess → Cause} {call : Call}
  {gives : List UInt8 → α → Prop} {record : List Exchange} {result : Except Failure α}

/-- What ends so is a single call. -/
lemma called (h : Ended world wrap call gives record result) :
    Called call gives record result := by
  cases h with
  | gave h hgives => exact .of_gave h hgives
  | failed h => exact ⟨h.calls, by simp, fun _ _ => h.not_succeeded⟩

/-- A call that failed is to blame. -/
lemma blames {failure : Failure} (h : Ended world wrap call gives record (.error failure)) :
    world.Blames wrap call record failure.root := by
  cases h with
  | failed h => exact h

/-- A context around a failure does not change what is to blame. -/
lemma within (h : Ended world wrap call gives record result) (context : String) :
    Ended world wrap call gives record
      (result.mapError fun failure => failure.within context) := by
  cases h with
  | gave h hgives => exact .gave h hgives
  | failed h => exact .failed h

lemma map (h : Ended world wrap call gives record result) {f : α → β}
    {gives' : List UInt8 → β → Prop}
    (hf : ∀ bytes value, result = .ok value → gives bytes value → gives' bytes (f value)) :
    Ended world wrap call gives' record (result.map f) := by
  cases h with
  | gave h hgives => exact .gave h (hf _ _ rfl hgives)
  | failed h => exact .failed h

lemma shows_within {run : Run σ α} (h : world.observer.Shows run (Ended world wrap call gives))
    (context : String) :
    world.observer.Shows (run.within context) (Ended world wrap call gives) := by
  refine (h.within context).mono ?_
  rintro record result ⟨inner, hended, rfl⟩
  exact hended.within context

end Ended

/-! ### Programs -/

lemma World.shows_response (world : World σ) (invocation : Invocation) :
    world.observer.Shows (world.response invocation) fun record result =>
      ∃ response, record = [.ran invocation response] ∧ result = .ok response := fun state =>
  ⟨_, ⟨rfl, rfl⟩, (world.respond state invocation).2, rfl, rfl⟩

/-- A program that can be started ends in time, or its run fails. -/
lemma World.ends_invoke (world : World σ) (wrap : FailedProcess → Cause)
    (invocation : Invocation) :
    world.observer.Shows (world.invoke invocation (some Command.standardLimit))
      fun record result =>
        (∃ failure, result = .error failure ∧
          world.Blames wrap (.run invocation) record failure.root) ∨
        ∃ response, record = [.ran invocation response] ∧
          response.millis < Command.standardLimit ∧ result = .ok response := by
  rw [World.invoke]
  cases hobstacle : world.obstacle? invocation with
  | some problem =>
      refine (shows_fail _).mono ?_
      rintro record result ⟨rfl, rfl⟩
      exact Or.inl ⟨_, rfl, .unstarted rfl hobstacle⟩
  | none =>
      refine ((world.shows_response invocation).bind fun response =>
        show world.observer.Shows _ fun record result => record = [] ∧
          if response.millis < Command.standardLimit then result = .ok response
          else result = .error
            (.of (.timedOut invocation.text (Command.standardLimit / 1000))) from ?_).mono ?_
      · by_cases htime : response.millis < Command.standardLimit
        · have hfilter : (some Command.standardLimit).filter (· ≤ response.millis) = none := by
            simpa [Option.filter] using htime
          simp only [hfilter, if_pos htime]
          exact shows_pure response
        · have hfilter : (some Command.standardLimit).filter (· ≤ response.millis) =
              some Command.standardLimit := by
            simpa [Option.filter] using htime
          simp only [hfilter, if_neg htime]
          exact (shows_log _ _ _).after_silent (shows_fail _)
      · rintro record result (⟨failure, ⟨response, -, hresult⟩, -⟩ |
          ⟨value, before, after, rfl, ⟨response, rfl, hresult⟩, rfl, hrest⟩)
        · cases hresult
        cases hresult
        split at hrest
        · exact Or.inr ⟨_, rfl, ‹_›, hrest⟩
        · exact Or.inl ⟨_, hrest, .late rfl ‹_›⟩

/-- What follows the run of a program: its output if it ended well, and a failure that says how
it ended if not. -/
lemma World.ends_output (world : World σ) (wrap : FailedProcess → Cause)
    (invocation : Invocation) {next : Response → Run σ α} {gives : List UInt8 → α → Prop}
    (hok : ∀ response, response.isSuccess = true → world.observer.Shows (next response)
      fun record result => record = [] ∧ ∃ value, result = .ok value ∧ gives response.stdout value)
    (herror : ∀ response, ¬response.isSuccess = true → world.observer.Shows (next response)
      fun record result =>
        record = [] ∧ result = .error (.of (wrap (response.failedProcess invocation)))) :
    world.observer.Shows (world.invoke invocation (some Command.standardLimit) >>= next)
      (Ended world wrap (.run invocation) gives) := by
  refine ((world.ends_invoke wrap invocation).bind fun response =>
    show world.observer.Shows _ fun record result => record = [] ∧
      ((response.isSuccess = true ∧ ∃ value, result = .ok value ∧ gives response.stdout value) ∨
        (¬response.isSuccess = true ∧
          result = .error (.of (wrap (response.failedProcess invocation))))) from ?_).mono ?_
  · by_cases hsuccess : response.isSuccess = true
    · refine (hok response hsuccess).mono ?_
      rintro record result ⟨rfl, hvalue⟩
      exact ⟨rfl, Or.inl ⟨hsuccess, hvalue⟩⟩
    · refine (herror response hsuccess).mono ?_
      rintro record result ⟨rfl, hfailure⟩
      exact ⟨rfl, Or.inr ⟨hsuccess, hfailure⟩⟩
  · rintro record result (⟨failure, ⟨other, hother, hblames⟩ | ⟨_, _, _, ⟨⟩⟩, rfl⟩ |
      ⟨response, before, after, rfl, ⟨_, ⟨⟩, _⟩ | ⟨other, rfl, htime, hresponse⟩, rfl, hrest⟩)
    · cases hother
      exact .failed hblames
    · cases hresponse
      rcases hrest with ⟨hsuccess, value, rfl, hgives⟩ | ⟨hfails, rfl⟩
      · exact .gave ⟨rfl, ⟨hsuccess, htime⟩, rfl⟩ hgives
      · exact .failed (.process rfl hfails htime)

/-! ### Git and the Azure command line -/

lemma ignores_entriesBefore (world : World σ) (git : Git) :
    ∀ event ∈ git.entriesBefore, world.observer.Ignores (id event) := by
  intro event hevent
  simp only [Git.entriesBefore, List.mem_append, List.mem_map, List.mem_singleton] at hevent
  rcases hevent with ⟨setting, -, rfl⟩ | rfl <;> exact ignores_logged _

lemma ignores_entriesOnSuccess (world : World σ) (git : Git) (stderr : String) :
    ∀ event ∈ git.entriesOnSuccess stderr, world.observer.Ignores (id event) := by
  intro event hevent
  rw [Git.entriesOnSuccess] at hevent
  split at hevent
  · simp at hevent
  · rw [List.mem_singleton] at hevent
    exact hevent ▸ ignores_logged _

lemma ignores_entriesOnFailure (world : World σ) (process : FailedProcess) :
    ∀ event ∈ Git.entriesOnFailure process, world.observer.Ignores (id event) := by
  intro event hevent
  rw [Git.entriesOnFailure, List.mem_cons] at hevent
  rcases hevent with rfl | hevent
  · exact ignores_logged _
  · split at hevent
    · simp at hevent
    · rw [List.mem_singleton] at hevent
      exact hevent ▸ ignores_logged _

/-- How a run of git ends. -/
theorem Git.ends_execute (world : World σ) {git : Git}
    (hlimit : git.limit = some Command.standardLimit) :
    world.observer.Shows (git.execute world)
      (Ended world .gitFailed (.run git.invocation) fun bytes output => output.stdout = bytes) := by
  rw [Git.execute, hlimit]
  refine (shows_emitEach (ignores_entriesBefore world git)).after_silent
    (world.ends_output .gitFailed git.invocation ?_ ?_)
  · intro response hsuccess
    rw [if_pos hsuccess]
    exact (shows_emitEach (ignores_entriesOnSuccess world git _)).after_silent
      (shows_pure_exists rfl)
  · intro response hfails
    rw [if_neg hfails]
    exact (shows_emitEach (ignores_entriesOnFailure world _)).after_silent (shows_fail _)

/-- How a run of the Azure command line ends. -/
theorem Azure.ends_execute (world : World σ) {azure : Azure}
    (hlimit : azure.limit = some Command.standardLimit) :
    world.observer.Shows (azure.execute world)
      (Ended world .azFailed (.run azure.invocation) fun bytes output => output = bytes) := by
  rw [Azure.execute, hlimit]
  refine (shows_log _ _ _).after_silent (world.ends_output .azFailed azure.invocation ?_ ?_)
  · intro response hsuccess
    rw [if_pos hsuccess]
    exact shows_pure_exists rfl
  · intro response hfails
    rw [if_neg hfails]
    exact (shows_log _ _ _).after_silent (shows_fail _)

/-- A run of git is a single call. -/
theorem Git.shows_execute (world : World σ) {git : Git}
    (hlimit : git.limit = some Command.standardLimit) :
    world.observer.Shows (git.execute world)
      (Called (.run git.invocation) fun bytes output => output.stdout = bytes) :=
  (Git.ends_execute world hlimit).mono fun _ _ hended => hended.called

end ImageRetention
