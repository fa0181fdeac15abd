import ImageRetention.Host.Line
import ImageRetention.Program

/-
The program for a host that looks up files and runs outside programs on its behalf.

* `Host.Files`: what was found at the paths that a command line leads to;
* `Host.paths`: these paths;
* `Host.Step`: a run that is asked of the host, or the end;
* `Host.next`: the next step, by the responses to all earlier runs.

A run asks for one outside program after the other, and what it does up to the first one that
has no response yet depends on the earlier responses alone.  So the program is simply run
again with one response more, until it asks for nothing new.
-/

namespace ImageRetention.Host

/-! ### Files -/

/-- What was found at some paths. -/
abbrev Files : Type := List (String × Except IoError (List UInt8))

/-- Whether a failure to read a file means that there is none. -/
def meansAbsent (error : IoError) : Bool :=
  error == .noSuchFile || error == .notADirectory || error == .nameTooLong
    || error == .nulInPath

/-- Whether there is anything at a path. -/
def existsAt (files : Files) (path : String) : Bool :=
  match files.lookup path with
  | some (.ok _) => true
  | some (.error error) => !meansAbsent error
  | none => false

/-- What is in the file at a path. -/
def contents (files : Files) (path : String) : Except IoError (List UInt8) :=
  (files.lookup path).getD (.error .noSuchFile)

/-! ### The world of a host -/

/-- What a host has found out before anything is run. -/
structure Findings where
  environment : Environment
  files : Files
  /-- The programs that are on the search path. -/
  installed : List String
  circumstances : Circumstances

/-- The response that stands for one that is not known yet. -/
def unknown : Response := ⟨none, [], [], 0⟩

/-- The world as a host has found it, with responses in the order in which they are asked
for. -/
def world (findings : Findings) : World (List Response) where
  environment := findings.environment
  existsAt := existsAt findings.files
  contents := contents findings.files
  isInstalled _ program := findings.installed.contains program
  respond responses _ :=
    match responses with
    | [] => ([], unknown)
    | response :: rest => (rest, response)
  now := findings.circumstances.now
  processors := findings.circumstances.processors

/-- The paths that a command line leads to. -/
def paths (findings : Findings) (commandLine : CommandLine) : List String :=
  (match Settings.source (world findings) commandLine.config with
    | .required path => [path]
    | .optional path => [path]
    | .nowhere _ => [])
    ++ (match Path.resolve (world findings) commandLine.repoPath with
      | .ok path => [path]
      | .error _ => [])
    ++ commandLine.manifests.toList

/-! ### Steps -/

/-- What is to be done next. -/
inductive Step
  /-- An outside program is to be run. -/
  | run (invocation : Invocation)
  /-- Nothing more; this is what the program leaves behind. -/
  | finish (output : Program.Output)

/-- The next step, by the responses to all earlier runs. -/
def next (findings : Findings) (arguments : List String) (responses : List Response) : Step :=
  let (output, events) := Program.run (world findings) .inOrder arguments responses
  match (events.filterMap Event.invocation?)[responses.length]? with
  | some invocation => .run invocation
  | none => .finish output

end ImageRetention.Host
