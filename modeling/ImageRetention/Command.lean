import ImageRetention.Run
import ImageRetention.Text.Utf8
import ImageRetention.World

/-
Running outside programs within a time limit.

* `Command.standardLimit`: the limit that holds by default;
* `World.invoke`: a run of a program, which fails if the program cannot be started or does
  not end in time;
* `Response.failedProcess`: a run that ended unsuccessfully, with what it printed as text.
-/

namespace ImageRetention

/-- The time limit of a run by default, in milliseconds. -/
def Command.standardLimit : Nat := 300000

/-- An exit code as log entries show it. -/
def Command.exitCodeText : Option Int → String
  | some code => "Some(" ++ toString code ++ ")"
  | none => "None"

/-- A run that ended unsuccessfully, with what it printed as text. -/
def Response.failedProcess (response : Response) (invocation : Invocation) : FailedProcess where
  command := invocation.text
  exitCode := response.exitCode
  stdout := Text.Utf8.textOf response.stdout
  stderr := Text.Utf8.textOf response.stderr

/-- Why a program cannot be started in a world, if it cannot. -/
def World.obstacle? {σ : Type} (world : World σ) (invocation : Invocation) : Option IoError :=
  if !invocation.isPassable then some .nulInArgument
  else if world.isInstalled (world.environment.setAll invocation.settings) invocation.program
  then none
  else some .noSuchFile

/-- The response of a program that is started. -/
def World.response {σ : Type} (world : World σ) (invocation : Invocation) : Run σ Response :=
  fun state =>
    let (after, response) := world.respond state invocation
    ⟨after, [.invoked invocation], .ok response⟩

/-- A run of a program.  One that takes as long as the limit is ended, and fails. -/
def World.invoke {σ : Type} (world : World σ) (invocation : Invocation) (limit : Option Nat) :
    Run σ Response :=
  match world.obstacle? invocation with
  | some error => Run.fail ((Failure.ofIo error).within ("Failed to execute " ++ invocation.text))
  | none => do
    let response ← world.response invocation
    match limit.filter (· ≤ response.millis) with
    | none => return response
    | some limit =>
      let seconds := limit / 1000
      Run.log .warn .process
        ("Command timed out after " ++ toString seconds ++ " seconds: " ++ invocation.text)
      Run.failFor (.timedOut invocation.text seconds)

end ImageRetention
