import Mathlib.Tactic
import ImageRetention.Command.Git

/-!
Runs of git that are put together clause by clause, and how they end.

* `Git.Start`, `Git.Clause`: what a run starts from, and one further thing that is said about it;
* `Git.composed`: the run that a start and any number of clauses amount to;
* `arguments_composed`, `directory_composed`, `settings_composed`, `limit_composed`: each part of
  it, read off the clauses; arguments and variables are all kept, and of directories and time
  limits the last one holds;
* `value?_environmentOf_composed`: a variable has the last value that it was given;
* `World.invoke_of_timely`, `World.invoke_of_late`: a program that is started, and ends in time or
  does not;
* `World.invoke_of_obstacle`: a program that cannot be started;
* `Git.execute_of_started`: a run of git that can be started is a single run of the program;
* `Git.invocations_execute`: which program a run of git runs, if any;
* `composed_faithful`: what git is run with, what comes of it, and what the user is told.
-/

namespace ImageRetention

variable {σ α β : Type}

/-! ### Clauses -/

namespace Git

/-- What a run of git starts from. -/
inductive Start
  | plain
  | revList (arguments : List String)
  | lsTree (commit path : String)
  | showObject (object : String)
  | gitDir
  deriving DecidableEq, Repr

/-- One further thing that is said about a run. -/
inductive Clause
  | inDirectory (directory : String)
  | arg (argument : String)
  | args (arguments : List String)
  | setting (name value : String)
  | withLimit (limit : Option Nat)
  | labelled (label : String)
  deriving DecidableEq, Repr

namespace Start

/-- The run that a start is by itself. -/
def git : Start → Git
  | plain => {}
  | revList arguments => Git.revList arguments
  | lsTree commit path => Git.lsTree commit path
  | showObject object => Git.showObject object
  | gitDir => Git.gitDir

/-- The arguments that a start stands for. -/
def arguments : Start → List String
  | plain => []
  | revList arguments => "rev-list" :: arguments
  | lsTree commit path => ["ls-tree", commit, "--", path]
  | showObject object => ["show", object]
  | gitDir => ["rev-parse", "--git-dir"]

/-- A start says what is asked, and nothing else. -/
lemma git_eq (start : Start) : start.git = { arguments := start.arguments } := by
  cases start <;> rfl

end Start

namespace Clause

/-- A run about which something further is said. -/
def applied (git : Git) : Clause → Git
  | inDirectory directory => git.inDirectory directory
  | arg argument => git.arg argument
  | args arguments => git.args arguments
  | setting name value => git.setting name value
  | withLimit limit => git.withLimit limit
  | labelled label => git.labelled label

/-- The arguments that a clause adds. -/
def arguments : Clause → List String
  | arg argument => [argument]
  | args arguments => arguments
  | _ => []

/-- The directory that a clause names. -/
def directory? : Clause → Option String
  | inDirectory directory => some directory
  | _ => none

/-- The variables that a clause sets. -/
def settings : Clause → List (String × String)
  | setting name value => [(name, value)]
  | _ => []

/-- The value that a clause gives a variable. -/
def value? (name : String) : Clause → Option String
  | setting other value => if name = other then some value else none
  | _ => none

/-- The time limit that a clause sets. -/
def limit? : Clause → Option (Option Nat)
  | withLimit limit => some limit
  | _ => none

/-- Whether a clause is about the arguments of the run. -/
def isSpoken : Clause → Bool
  | inDirectory _ | arg _ | args _ => true
  | _ => false

lemma arguments_applied (git : Git) (clause : Clause) :
    (applied git clause).arguments = git.arguments ++ clause.arguments := by
  cases clause <;> simp [applied, arguments, Git.inDirectory, Git.arg, Git.args, Git.setting,
    Git.withLimit, Git.labelled]

lemma directory_applied (git : Git) (clause : Clause) :
    (applied git clause).directory = clause.directory?.or git.directory := by
  cases clause <;> rfl

lemma settings_applied (git : Git) (clause : Clause) :
    (applied git clause).settings = git.settings ++ clause.settings := by
  cases clause <;> simp [applied, settings, Git.inDirectory, Git.arg, Git.args, Git.setting,
    Git.withLimit, Git.labelled]

lemma limit_applied (git : Git) (clause : Clause) :
    (applied git clause).limit = clause.limit?.getD git.limit := by
  cases clause <;> rfl

lemma lookup_settings (name : String) (clause : Clause) :
    clause.settings.lookup name = clause.value? name := by
  cases clause with
  | setting other value =>
      by_cases h : name = other
      · simp [settings, value?, h]
      · simp [settings, value?, h, List.lookup_cons, beq_eq_false_iff_ne.mpr h]
  | _ => rfl

lemma eq_nil_of_not_isSpoken {clause : Clause} (h : clause.isSpoken = false) :
    clause.arguments = [] ∧ clause.directory? = none := by
  cases clause <;> simp_all [isSpoken, arguments, directory?]

end Clause

/-! ### Runs that are put together -/

/-- The last thing of a kind that some clauses say. -/
def lastSaid (said? : Clause → Option α) (clauses : List Clause) : Option α :=
  clauses.reverse.findSome? said?

lemma lastSaid_cons (said? : Clause → Option α) (clause : Clause) (rest : List Clause) :
    lastSaid said? (clause :: rest) = (lastSaid said? rest).or (said? clause) := by
  simp [lastSaid]

/-- The run that a start and some clauses amount to, the clauses taken in order. -/
def composed (start : Start) (clauses : List Clause) : Git :=
  clauses.foldl Clause.applied start.git

/-- What further clauses do to the arguments, the directory, the variables and the time limit of
a run, by induction on the clauses: each clause does what the lemmas on a single one say. -/
lemma foldl_applied (git : Git) (clauses : List Clause) :
    let whole := clauses.foldl Clause.applied git
    whole.arguments = git.arguments ++ clauses.flatMap Clause.arguments ∧
      whole.directory = (lastSaid Clause.directory? clauses).or git.directory ∧
      whole.settings = git.settings ++ clauses.flatMap Clause.settings ∧
      whole.limit = (lastSaid Clause.limit? clauses).getD git.limit := by
  induction clauses generalizing git with
  | nil => simp [lastSaid]
  | cons clause rest ih =>
      obtain ⟨harguments, hdirectory, hsettings, hlimit⟩ := ih (Clause.applied git clause)
      refine ⟨?_, ?_, ?_, ?_⟩
      · rw [List.foldl_cons, harguments, Clause.arguments_applied, List.flatMap_cons,
          List.append_assoc]
      · rw [List.foldl_cons, hdirectory, Clause.directory_applied, lastSaid_cons,
          Option.or_assoc]
      · rw [List.foldl_cons, hsettings, Clause.settings_applied, List.flatMap_cons,
          List.append_assoc]
      · rw [List.foldl_cons, hlimit, Clause.limit_applied, lastSaid_cons]
        cases lastSaid Clause.limit? rest <;> rfl

section Composed

variable (start : Start) (clauses : List Clause)

lemma arguments_composed :
    (composed start clauses).arguments =
      start.arguments ++ clauses.flatMap Clause.arguments := by
  rw [composed, (foldl_applied start.git clauses).1, start.git_eq]

lemma directory_composed :
    (composed start clauses).directory = lastSaid Clause.directory? clauses := by
  rw [composed, (foldl_applied start.git clauses).2.1, start.git_eq, Option.or_none]

lemma settings_composed :
    (composed start clauses).settings = clauses.flatMap Clause.settings := by
  rw [composed, (foldl_applied start.git clauses).2.2.1, start.git_eq, List.nil_append]

lemma limit_composed :
    (composed start clauses).limit =
      (lastSaid Clause.limit? clauses).getD (some Command.standardLimit) := by
  rw [composed, (foldl_applied start.git clauses).2.2.2, start.git_eq]

/-- The arguments that git is run with: the last directory first, then those of the start, and
then those of the clauses in order. -/
def spokenArguments : List String :=
  (match lastSaid Clause.directory? clauses with
    | some directory => ["-C", directory]
    | none => [])
  ++ start.arguments ++ clauses.flatMap Clause.arguments

lemma invocation_composed :
    (composed start clauses).invocation =
      ⟨"git", spokenArguments start clauses, clauses.flatMap Clause.settings⟩ := by
  rw [invocation, directoryArguments, directory_composed, arguments_composed, settings_composed,
    spokenArguments, List.append_assoc]
  rfl

/-- Variables, time limits and labels change nothing about the arguments. -/
lemma spokenArguments_filter :
    spokenArguments start (clauses.filter Clause.isSpoken) = spokenArguments start clauses := by
  have hsilent : ∀ clauses : List Clause,
      (clauses.filter Clause.isSpoken).flatMap Clause.arguments =
          clauses.flatMap Clause.arguments ∧
        lastSaid Clause.directory? (clauses.filter Clause.isSpoken) =
          lastSaid Clause.directory? clauses := by
    intro clauses
    induction clauses with
    | nil => exact ⟨rfl, rfl⟩
    | cons clause rest ih =>
        obtain ⟨harguments, hdirectory⟩ := ih
        cases hspoken : clause.isSpoken with
        | true =>
            rw [List.filter_cons_of_pos hspoken, List.flatMap_cons, List.flatMap_cons, harguments,
              lastSaid_cons, lastSaid_cons, hdirectory]
            exact ⟨rfl, rfl⟩
        | false =>
            obtain ⟨hnone, habsent⟩ := Clause.eq_nil_of_not_isSpoken hspoken
            rw [List.filter_cons_of_neg (by simp [hspoken]), List.flatMap_cons, lastSaid_cons,
              harguments, hdirectory, hnone, habsent, Option.or_none]
            exact ⟨rfl, rfl⟩
  rw [spokenArguments, spokenArguments, (hsilent clauses).1, (hsilent clauses).2]

end Composed

end Git

/-! ### The environment of a program -/

/-- The environment that a program is run in: that of the world, and the variables set for the
run. -/
def World.environmentOf (world : World σ) (invocation : Invocation) : Environment :=
  world.environment.setAll invocation.settings

lemma Git.lookup_reverse_settings (name : String) (clauses : List Clause) :
    (clauses.flatMap Clause.settings).reverse.lookup name =
      lastSaid (Clause.value? name) clauses := by
  induction clauses with
  | nil => rfl
  | cons clause rest ih =>
      have hsingle : clause.settings.reverse = clause.settings := by cases clause <;> rfl
      rw [List.flatMap_cons, List.reverse_append, List.lookup_append, ih, hsingle,
        Clause.lookup_settings, lastSaid_cons]

/-- A variable has the last value that it was given, and that of the world if it was given
none. -/
lemma Git.value?_environmentOf_composed (world : World σ) (start : Start)
    (clauses : List Clause) (name : String) :
    (world.environmentOf (composed start clauses).invocation).value? name =
      (lastSaid (Clause.value? name) clauses).or (world.environment.value? name) := by
  rw [World.environmentOf, invocation_composed, Environment.value?_setAll,
    lookup_reverse_settings]

/-! ### Runs that end in time -/

/-- A run for a part of what another one gives ends as that one does. -/
lemma Run.map_apply (part : α → β) (run : Run σ α) (state : σ) :
    (part <$> run) state =
      ⟨(run state).state, (run state).events, (run state).result.map part⟩ := by
  show Run.bind run (Run.pure ∘ part) state = _
  rcases h : run state with ⟨after, events, result⟩
  cases result <;> simp [Run.bind, Run.pure, h, Except.map]

/-- Whether a program that responds so ends within a time limit. -/
def Response.IsTimely (response : Response) (limit : Option Nat) : Prop :=
  ∀ bound, limit = some bound → response.millis < bound

/-- A program that is started and ends in time is a single run, and gives its response. -/
lemma World.invoke_of_timely {world : World σ} {invocation : Invocation} {limit : Option Nat}
    {state : σ} (hobstacle : world.obstacle? invocation = none)
    (htimely : (world.respond state invocation).2.IsTimely limit) :
    world.invoke invocation limit state =
      ⟨(world.respond state invocation).1, [.invoked invocation],
        .ok (world.respond state invocation).2⟩ := by
  have hresponse : world.response invocation state =
      ⟨(world.respond state invocation).1, [.invoked invocation],
        .ok (world.respond state invocation).2⟩ := rfl
  have hlimit : limit.filter (· ≤ (world.respond state invocation).2.millis) = none := by
    cases limit with
    | none => rfl
    | some bound => simpa [Option.filter] using htimely bound rfl
  rw [World.invoke, hobstacle]
  simp only [Run.bind_ok hresponse, hlimit, Run.pure_apply, List.append_nil]

/-- A program that is started and does not end in time is a single run as well, and fails. -/
lemma World.invoke_of_late {world : World σ} {invocation : Invocation} {bound : Nat} {state : σ}
    (hobstacle : world.obstacle? invocation = none)
    (hlate : bound ≤ (world.respond state invocation).2.millis) :
    world.invoke invocation (some bound) state =
      ⟨(world.respond state invocation).1,
        [.invoked invocation, .logged ⟨.warn, .process, "Command timed out after "
          ++ toString (bound / 1000) ++ " seconds: " ++ invocation.text⟩],
        .error (.of (.timedOut invocation.text (bound / 1000)))⟩ := by
  have hresponse : world.response invocation state =
      ⟨(world.respond state invocation).1, [.invoked invocation],
        .ok (world.respond state invocation).2⟩ := rfl
  have hlimit : (some bound).filter (· ≤ (world.respond state invocation).2.millis) =
      some bound := by
    simpa [Option.filter] using hlate
  rw [World.invoke, hobstacle]
  simp only [Run.bind_ok hresponse, hlimit]
  rfl

/-- A program that cannot be started is no run at all, and fails. -/
lemma World.invoke_of_obstacle {world : World σ} {invocation : Invocation} {limit : Option Nat}
    {state : σ} {problem : IoError} (hobstacle : world.obstacle? invocation = some problem) :
    world.invoke invocation limit state =
      ⟨state, [], .error ((Failure.ofIo problem).within
        ("Failed to execute " ++ invocation.text))⟩ := by
  rw [World.invoke, hobstacle]
  rfl

namespace Git

/-! What git has to say about a run goes to the log, and runs no program. -/

lemma filterMap_entriesBefore (git : Git) :
    git.entriesBefore.filterMap Event.invocation? = [] := by
  simp [entriesBefore, entry, Event.invocation?]

lemma filterMap_entriesOnSuccess (git : Git) (stderr : String) :
    (git.entriesOnSuccess stderr).filterMap Event.invocation? = [] := by
  rw [entriesOnSuccess]
  split <;> simp [entry, Event.invocation?]

lemma filterMap_entriesOnFailure (process : FailedProcess) :
    (entriesOnFailure process).filterMap Event.invocation? = [] := by
  rw [entriesOnFailure]
  split <;> simp [entry, Event.invocation?]

lemma emit_entries (entries : List Event) (state : σ) :
    Run.emitEach id entries state = ⟨state, entries, .ok ()⟩ := by
  rw [Run.emitEach, List.map_id]

/-- A run of git that can be started is a single run of the program. -/
lemma execute_of_started {world : World σ} {git : Git} {state : σ}
    (hobstacle : world.obstacle? git.invocation = none) :
    let outcome := git.execute world state
    let response := (world.respond state git.invocation).2
    outcome.events.filterMap Event.invocation? = [git.invocation] ∧
      outcome.state = (world.respond state git.invocation).1 ∧
      (response.IsTimely git.limit → outcome.result =
        if response.exitCode = some 0 then
          .ok ⟨response.stdout, Text.Utf8.textOf response.stderr⟩
        else .error (.of (.gitFailed (response.failedProcess git.invocation)))) := by
  intro outcome response
  have houtcome : outcome = git.execute world state := rfl
  rw [execute, Run.bind_ok (emit_entries git.entriesBefore state)] at houtcome
  by_cases htimely : response.IsTimely git.limit
  · rw [Run.bind_ok (World.invoke_of_timely hobstacle htimely)] at houtcome
    by_cases hcode : response.exitCode = some 0
    · have hsuccess : response.isSuccess = true := by simpa [Response.isSuccess] using hcode
      rw [if_pos hsuccess, Run.bind_ok (emit_entries _ _)] at houtcome
      rw [houtcome, if_pos hcode]
      simp [filterMap_entriesBefore, filterMap_entriesOnSuccess, Event.invocation?, response]
    · have hfails : ¬response.isSuccess = true := by simpa [Response.isSuccess] using hcode
      rw [if_neg hfails, Run.bind_ok (emit_entries _ _)] at houtcome
      rw [houtcome, if_neg hcode]
      simp [filterMap_entriesBefore, filterMap_entriesOnFailure, Event.invocation?, Run.failFor,
        response]
  · have hlate : ∃ bound, git.limit = some bound ∧ bound ≤ response.millis := by
      simpa [Response.IsTimely] using htimely
    obtain ⟨bound, hbound, hlate⟩ := hlate
    rw [hbound, Run.bind_error (World.invoke_of_late hobstacle hlate)] at houtcome
    rw [houtcome]
    exact ⟨by simp [filterMap_entriesBefore, Event.invocation?], rfl,
      fun h => absurd h htimely⟩

/-- A run of git is a single run of the program, or none if that cannot be started. -/
lemma invocations_execute (world : World σ) (git : Git) (state : σ) :
    (git.execute world state).events.filterMap Event.invocation? =
      if world.obstacle? git.invocation = none then [git.invocation] else [] := by
  cases hobstacle : world.obstacle? git.invocation with
  | none => rw [if_pos rfl, (execute_of_started hobstacle).1]
  | some problem =>
      rw [if_neg (by simp), execute, Run.bind_ok (emit_entries git.entriesBefore state),
        Run.bind_error (World.invoke_of_obstacle hobstacle), List.append_nil,
        filterMap_entriesBefore]

/-- Runs of git are faithful to what is said about them.  Whatever a run starts from, and whatever
is then said about it in whatever order, git is run with the last directory behind `-C`, the
arguments of the start, and all further ones in the order in which they were given; variables,
time limits and labels do not touch them, and each variable has the last value that it was given,
or that of the world.  A run that can be started is a single run of the program.  If it ends in
time, it succeeds just if the exit code is zero, with the bytes that were printed; if not, the
failure shows the arguments that git was run with, the exit code, and all that was printed as
text.  And the runs for a part of the output do the same, and succeed and fail with it. -/
theorem composed_faithful (world : World σ) (state : σ) (start : Start) (clauses : List Clause) :
    let git := composed start clauses
    let arguments := (match lastSaid Clause.directory? clauses with
        | some directory => ["-C", directory]
        | none => [])
      ++ start.arguments ++ clauses.flatMap Clause.arguments
    let invocation := git.invocation
    let outcome := git.execute world state
    let response := (world.respond state invocation).2
    invocation.program = "git" ∧ invocation.arguments = arguments ∧
    (composed start (clauses.filter Clause.isSpoken)).invocation.arguments = arguments ∧
    (∀ name, (world.environmentOf invocation).value? name =
      (lastSaid (Clause.value? name) clauses).or (world.environment.value? name)) ∧
    (world.obstacle? invocation = none →
      outcome.events.filterMap Event.invocation? = [invocation] ∧
      outcome.state = (world.respond state invocation).1 ∧
      (response.IsTimely ((lastSaid Clause.limit? clauses).getD (some Command.standardLimit)) →
        outcome.result =
          if response.exitCode = some 0 then
            .ok { stdout := response.stdout, stderr := Text.Utf8.textOf response.stderr }
          else .error (.of (.gitFailed
            { command := "git " ++ String.intercalate " " arguments
              exitCode := response.exitCode
              stdout := Text.Utf8.textOf response.stdout
              stderr := Text.Utf8.textOf response.stderr })))) ∧
    git.stdout world state = ⟨outcome.state, outcome.events,
      outcome.result.map fun output => Text.Utf8.textOf output.stdout⟩ ∧
    git.bytes world state = ⟨outcome.state, outcome.events,
      outcome.result.map fun output => output.stdout⟩ ∧
    git.success world state = ⟨outcome.state, outcome.events,
      outcome.result.map fun _ => ()⟩ := by
  intro git arguments invocation outcome response
  have hinvocation : invocation =
      ⟨"git", spokenArguments start clauses, clauses.flatMap Clause.settings⟩ :=
    invocation_composed start clauses
  have hfailed : response.failedProcess invocation =
      { command := "git " ++ String.intercalate " " arguments
        exitCode := response.exitCode
        stdout := Text.Utf8.textOf response.stdout
        stderr := Text.Utf8.textOf response.stderr } := by
    rw [Response.failedProcess, Invocation.text, hinvocation]
    rfl
  refine ⟨by rw [hinvocation], by rw [hinvocation]; rfl, ?_,
    value?_environmentOf_composed world start clauses, fun hobstacle => ?_, Run.map_apply ..,
    Run.map_apply .., Run.map_apply ..⟩
  · rw [invocation_composed, spokenArguments_filter]
    rfl
  · obtain ⟨hevents, hstate, hresult⟩ := execute_of_started hobstacle
    refine ⟨hevents, hstate, fun htimely => ?_⟩
    rw [← limit_composed] at htimely
    exact (hresult htimely).trans (by rw [hfailed])

/-- A world in which git takes ten minutes, and then fails in bytes that are no text. -/
def slowWorld : World Unit where
  environment := ⟨[("LANG", "C"), ("GIT_DIR", "elsewhere")]⟩
  existsAt _ := true
  contents _ := .error .noSuchFile
  isInstalled _ _ := true
  respond state _ := (state, ⟨some 3, [104, 255], Text.Utf8.bytesOf "fatal", 600000⟩)
  now := ⟨17691, 4000, 5, by decide, by decide, by decide, by decide, by decide⟩
  processors := 1

/-- Two directories, two values of a variable and two time limits: the last ones hold, and without
a limit git may take its time. -/
theorem composed_faithful_twice :
    let clauses : List Clause := [.withLimit (some 1), .inDirectory "a", .arg "--since=now",
      .setting "LANG" "de", .inDirectory "b", .labelled "all", .setting "LANG" "en",
      .args ["--", "x"], .withLimit none]
    let git := composed (.revList ["--all"]) clauses
    slowWorld.obstacle? git.invocation = none ∧
    (slowWorld.respond () git.invocation).2.IsTimely none ∧
    git.invocation.arguments = ["-C", "b", "rev-list", "--all", "--since=now", "--", "x"] ∧
    (slowWorld.environmentOf git.invocation).value? "LANG" = some "en" ∧
    (slowWorld.environmentOf git.invocation).value? "GIT_DIR" = some "elsewhere" ∧
    (git.execute slowWorld ()).result = .error (.of (.gitFailed
      ⟨"git -C b rev-list --all --since=now -- x", some 3, "h\uFFFD", "fatal"⟩)) := by
  intro clauses git
  have hobstacle : slowWorld.obstacle? git.invocation = none := by decide
  have htimely : (slowWorld.respond () git.invocation).2.IsTimely none := by
    simp [Response.IsTimely]
  obtain ⟨-, harguments, -, henvironment, hstarted, -⟩ :=
    composed_faithful slowWorld () (.revList ["--all"]) clauses
  obtain ⟨-, -, hresult⟩ := hstarted hobstacle
  refine ⟨hobstacle, htimely, harguments, henvironment "LANG", henvironment "GIT_DIR", ?_⟩
  rw [hresult htimely]
  rfl

end Git

end ImageRetention
