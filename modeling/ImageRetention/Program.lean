import ImageRetention.CommandLine.Help
import ImageRetention.CommandLine.Parser
import ImageRetention.Failure.Report
import ImageRetention.Log.Line
import ImageRetention.Sweep

/-
The program as it is seen from outside.

* `Styling`: where terminal styles are used;
* `Program.printed`, `Program.logged`: what a run writes to the two output streams;
* `Program.run`: from the arguments to both streams and the exit code.
-/

namespace ImageRetention

open Text (Style)

/-! ### Terminal styles -/

/-- Where terminal styles are used.  The output is never taken for a terminal. -/
structure Styling where
  /-- In what is printed and in reports of failures. -/
  texts : Bool
  /-- In log entries. -/
  log : Bool
  /-- In the help page. -/
  help : Bool
  deriving DecidableEq, Repr

/-- The styles that an environment asks for. -/
def Styling.ofEnvironment (environment : Environment) : Styling :=
  let forced := (environment.get? "CLICOLOR_FORCE").any (· ≠ "0")
  let plain := (environment.nonEmpty? "NO_COLOR").isSome
  ⟨forced, !plain, forced && !plain⟩

/-! ### What is written -/

namespace Program

/-- What a sweep says it does with a manifest. -/
def verb (dryRun : Bool) : String :=
  if dryRun then "Would delete" else "Deleted"

/-- What is printed about an event. -/
def printedFor (styled dryRun : Bool) : Event → String
  | .reported manifest =>
    verb dryRun ++ " " ++ Style.cyan.paint styled manifest.digest ++ " ["
      ++ String.intercalate ", " manifest.tags ++ "]\n"
  | .concluded 0 => Style.green.paint styled "No garbage manifests found" ++ "\n"
  | .concluded count =>
    Style.boldGreen.paint styled (verb dryRun) ++ " " ++ toString count ++ " manifest(s)\n"
  | _ => ""

/-- What a run prints. -/
def printed (styled dryRun : Bool) (events : List Event) : String :=
  String.join (events.map (printedFor styled dryRun))

/-- What a run logs, as far as a filter shows it. -/
def logged (styled : Bool) (filter : Log.Filter) (events : List Event) : String :=
  String.join (((events.filterMap Event.logged?).filter filter.enables).map fun entry =>
    entry.line styled ++ "\n")

/-- The report of a failure, each part behind its name. -/
def reportText (styled : Bool) (report : Report) : String :=
  Style.boldRed.paint styled "error" ++ ": " ++ report.cause.message ++ "\n"
    ++ (match report.details with
      | some details => Style.yellow.paint styled "details" ++ ": " ++ details ++ "\n"
      | none => "")
    ++ (match report.suggestion with
      | some suggestion =>
        Style.green.paint styled "suggestion" ++ ": " ++ suggestion ++ "\n"
      | none => "")

/-- The log entries that are shown: a filter in the environment goes before the verbosity. -/
def logFilter (environment : Environment) (verbosity : Verbosity) : Log.Filter :=
  ((environment.get? "RUST_LOG").bind Log.Filter.parse?).getD verbosity.filter

/-! ### Refused command lines -/

/-- Why a command line is refused, in words. -/
def refusalText : CommandLine.Refusal → String
  | .missing => "a required argument was not provided"
  | .invalidValue => "a value is missing or not possible"
  | .malformedValue => "a value is not a number in range"
  | .repeated => "an option was given twice"
  | .unneededValue => "a value was given for an option that takes none"
  | .helpAsked _ => "help was asked for"
  | .versionAsked => "the version was asked for"

/-- What the program leaves behind. -/
structure Output where
  exitCode : Nat
  stdout : String
  stderr : String
  deriving DecidableEq, Repr

/-- What is left behind if the command line is not carried out. -/
def refuse (styling : Styling) : CommandLine.Refusal → Output
  | .helpAsked full => ⟨0, CommandLine.Help.page full styling.help, ""⟩
  | .versionAsked => ⟨0, CommandLine.Help.version, ""⟩
  | refusal =>
    ⟨2, "", "error: " ++ refusalText refusal ++ "\n\n" ++ CommandLine.Help.usage false
      ++ "\n\nFor more information, try '--help'.\n"⟩

/-! ### The program -/

variable {σ : Type}

/-- What is left behind after a sweep. -/
def conclude (world : World σ) (commandLine : CommandLine) (outcome : Outcome σ Unit) :
    Output :=
  let styling := Styling.ofEnvironment world.environment
  let filter := logFilter world.environment commandLine.verbosity
  let stdout := printed styling.texts commandLine.dryRun outcome.events
  let stderr := logged styling.log filter outcome.events
  match outcome.result with
  | .ok () => ⟨0, stdout, stderr⟩
  | .error failure =>
    ⟨1, stdout, stderr ++ reportText styling.texts (Report.ofFailure failure)⟩

/-- The program: what it leaves behind, and the events on the way. -/
def run (world : World σ) (schedules : Schedules) (arguments : List String) (state : σ) :
    Output × List Event :=
  match CommandLine.ofArguments arguments with
  | .error refusal => (refuse (Styling.ofEnvironment world.environment) refusal, [])
  | .ok commandLine =>
    let outcome := sweep world schedules commandLine state
    (conclude world commandLine outcome, outcome.events)

end Program

end ImageRetention
