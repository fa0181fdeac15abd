import ImageRetention.Command
import ImageRetention.RootFilter
import ImageRetention.Text.Blank

/-
Runs of git.

* `Git`: the arguments, the repository, variables, time limit and label of a run;
* `Git.revList`, `Git.lsTree`, `Git.showObject`, `Git.gitDir`: the runs that a sweep needs;
* `Git.invocation`: the run of the program that it amounts to;
* `Git.execute`: its output, or a failure with all that git printed;
* `Git.stdout`, `Git.bytes`, `Git.success`: the parts of the output that are asked for.
-/

namespace ImageRetention

/-- A run of git. -/
structure Git where
  arguments : List String := []
  /-- The repository, if it is not the working directory. -/
  directory : Option String := none
  /-- The variables set for this run, in the order they were set. -/
  settings : List (String × String) := []
  /-- The time limit in milliseconds. -/
  limit : Option Nat := some Command.standardLimit
  /-- What log entries call the run. -/
  label : Option String := none
  deriving DecidableEq, Repr

namespace Git

/-- The name of the program. -/
def program : String := "git"

/-! ### Building -/

/-- A run with further arguments. -/
def args (git : Git) (arguments : List String) : Git :=
  { git with arguments := git.arguments ++ arguments }

/-- A run with one further argument. -/
def arg (git : Git) (argument : String) : Git :=
  git.args [argument]

/-- A run in a repository. -/
def inDirectory (git : Git) (directory : String) : Git :=
  { git with directory := some directory }

/-- A run with a variable set. -/
def setting (git : Git) (name value : String) : Git :=
  { git with settings := git.settings ++ [(name, value)] }

/-- A run with a time limit in milliseconds, or with none. -/
def withLimit (git : Git) (limit : Option Nat) : Git :=
  { git with limit }

/-- A run with a label for log entries. -/
def labelled (git : Git) (label : String) : Git :=
  { git with label := some label }

/-- Which commits do some arguments select? -/
def revList (arguments : List String) : Git :=
  ({} : Git).arg "rev-list" |>.args arguments

/-- What is at a path in a commit? -/
def lsTree (commit path : String) : Git :=
  ({} : Git).args ["ls-tree", commit, "--", path]

/-- What does an object hold? -/
def showObject (object : String) : Git :=
  ({} : Git).args ["show", object]

/-- Is this a repository? -/
def gitDir : Git :=
  ({} : Git).args ["rev-parse", "--git-dir"]

/-! ### Running -/

/-- The arguments that say which repository is meant. -/
def directoryArguments (git : Git) : List String :=
  match git.directory with
  | some directory => ["-C", directory]
  | none => []

/-- The run of the program. -/
def invocation (git : Git) : Invocation :=
  ⟨program, git.directoryArguments ++ git.arguments, git.settings⟩

/-- The output of a run. -/
structure Output where
  stdout : List UInt8
  stderr : String
  deriving DecidableEq, Repr

/-- The output as text. -/
def Output.text (output : Output) : String :=
  Text.Utf8.textOf output.stdout

variable {σ : Type}

/-- A message with the label of its run in front. -/
def withLabel (git : Git) (message : String) : String :=
  match git.label with
  | some label => "(" ++ label ++ ") " ++ message
  | none => message

/-- A log entry of git. -/
def entry (level : Log.Level) (message : String) : Event :=
  .logged ⟨level, .git, message⟩

/-- What a program printed for the log, without the blanks at its ends. -/
def trimmed (text : String) : String :=
  String.ofList (Text.trim text.toList)

/-- The log entries before a run. -/
def entriesBefore (git : Git) : List Event :=
  git.settings.map (fun setting =>
      entry .trace ("Setting env var: " ++ setting.1 ++ "=" ++ setting.2))
    ++ [entry .debug (git.withLabel ("Executing command: " ++ git.invocation.text))]

/-- The log entries after a run that failed. -/
def entriesOnFailure (process : FailedProcess) : List Event :=
  entry .debug ("Command failed with exit code: " ++ Command.exitCodeText process.exitCode)
    :: if process.stderr.isEmpty then []
      else [entry .debug ("Error: " ++ trimmed process.stderr)]

/-- The log entries after a run that succeeded. -/
def entriesOnSuccess (git : Git) (stderr : String) : List Event :=
  if stderr.isEmpty then [] else [entry .debug (git.withLabel (trimmed stderr))]

/-- Runs git. -/
def execute (world : World σ) (git : Git) : Run σ Output := do
  Run.emitEach id git.entriesBefore
  let response ← world.invoke git.invocation git.limit
  if response.isSuccess then
    let stderr := Text.Utf8.textOf response.stderr
    Run.emitEach id (git.entriesOnSuccess stderr)
    return ⟨response.stdout, stderr⟩
  else
    let process := response.failedProcess git.invocation
    Run.emitEach id (entriesOnFailure process)
    Run.failFor (.gitFailed process)

/-- Runs git for its output as text. -/
def stdout (world : World σ) (git : Git) : Run σ String :=
  Output.text <$> git.execute world

/-- Runs git for its output as bytes. -/
def bytes (world : World σ) (git : Git) : Run σ (List UInt8) :=
  Output.stdout <$> git.execute world

/-- Runs git to see whether it succeeds. -/
def success (world : World σ) (git : Git) : Run σ Unit :=
  (fun _ => ()) <$> git.execute world

/-- Whether git can be run. -/
def isInstalled (world : World σ) : Bool :=
  world.isInstalled world.environment program

/-- Fails if git cannot be run. -/
def ensureInstalled (world : World σ) : Run σ Unit :=
  if isInstalled world then pure () else Run.failFor .gitMissing

end Git

end ImageRetention
