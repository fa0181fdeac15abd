import ImageRetention.Failure

/-
What the user is told about a failure:

* `Report`: a cause with optional details and an optional suggestion;
* `Report.ofCause`: the standing explanation of each cause;
* `Report.ofFailure`: the report of a failure, with the cause dug out of its contexts and the
  outermost context put in front of the details.
-/

namespace ImageRetention

/-- What the user is told about a failure. -/
structure Report where
  cause : Cause
  details : Option String
  suggestion : Option String
  deriving DecidableEq, Repr

namespace Report

/-- A report that only states the cause. -/
def plain (cause : Cause) : Report := ⟨cause, none, none⟩

/-- All that a process printed, as the user is shown it. -/
def capturedOutput (process : FailedProcess) : String :=
  "STDOUT:\n" ++ process.stdout ++ "\nSTDERR:\n" ++ process.stderr

/-- The details that always go with a cause. -/
def standingDetails : Cause → Option String
  | .gitFailed process => some (capturedOutput process)
  | .azFailed process => some (capturedOutput process)
  | .gitMissing => some "imgsweep reads repository history with the system git binary"
  | .badTreeLine _ => some "Expected '<mode> <type> <id>\\t<path>' lines from 'git ls-tree'"
  | .malformedReference _ =>
    some "Image references must look like '<registry>.azurecr.io/<repository>:<tag>'"
  | .emptyLiveSet =>
    some "None of the selected commits reference an image in the expected repository"
  | .badListing _ _ =>
    some "Expected a JSON array of objects with 'digest', 'tags' and 'timestamp' fields"
  | _ => none

/-- What to try about a cause. -/
def standingSuggestion : Cause → Option String
  | .gitFailed _ =>
    some ("Check that every root filter is a valid 'git rev-list' argument list and that " ++
      "the repository has the referenced refs")
  | .azFailed _ =>
    some ("Run 'az login' and verify access to the registry, or pass --manifests with a " ++
      "saved listing")
  | .timedOut _ _ =>
    some "Try running the command manually to see whether it hangs on a prompt"
  | .gitMissing =>
    some ("Install git from https://git-scm.com/ or your package manager (e.g., " ++
      "'apt install git')")
  | .notARepository _ => some "Pass the path of a git checkout with --repo-path"
  | .malformedReference _ => some "Fix the CI_BUILD_CONTAINER line in the tracked file"
  | .emptyLiveSet =>
    some "Check the root filters, --tracked-path, --registry and --repository settings"
  | .negativeMinAge _ => some "Pass the retention age in whole days, e.g. --min-age 30"
  | .minAgeOutOfRange _ => some "Pass the retention age in whole days, e.g. --min-age 30"
  | .badSettings _ =>
    some "Check the TOML syntax and field names in the configuration file"
  | _ => none

/-- The standing explanation of a cause. -/
def ofCause (cause : Cause) : Report :=
  ⟨cause, standingDetails cause, standingSuggestion cause⟩

/-- The outermost text of a failure on a line before the details. -/
def prependContext (outer : String) (details : Option String) : Option String :=
  match details with
  | some details => some (outer ++ "\n" ++ details)
  | none => some outer

/-- The causes below a message, one numbered line each. -/
def numberedCauses (start : Nat) : List String → String
  | [] => ""
  | text :: rest =>
    "\n  " ++ toString start ++ ": " ++ text ++ numberedCauses (start + 1) rest

/-- A failure in words: the outermost text, then the numbered texts below it. -/
def describeChain (failure : Failure) : String :=
  match failure.inner with
  | [] => failure.message
  | causes => failure.message ++ "\n\nCaused by:" ++ numberedCauses 1 causes

/-- The report of a failure.  A cause that the program tells apart is looked for along the
whole chain and reported as such; unless it is a failed outside program, which speaks for
itself, the outermost text is put in front of its details.  Missing files and refused access
get advice, and all else is told with its whole chain. -/
def ofFailure (failure : Failure) : Report :=
  match failure.chain.findSome? Link.cause? with
  | some cause =>
    let report := ofCause cause.restated
    if !cause.isBackendFailure && decide (1 < failure.chain.length)
        && failure.message != cause.message then
      { report with details := prependContext failure.message report.details }
    else report
  | none =>
    match failure.root with
    | .io ⟨.notFound, _⟩ =>
      ⟨.other failure.message,
        some "This error occurs when a required file or directory cannot be found",
        some "Check that the file or directory exists and the path is correct"⟩
    | .io ⟨.permissionDenied, _⟩ =>
      ⟨.other failure.message, some "imgsweep could not read a file it needs",
        some "Check file ownership and permissions"⟩
    | _ => plain (.other (describeChain failure))

/-- A report as one text. -/
def display (report : Report) : String :=
  report.cause.message
    ++ (match report.details with
      | some details => "\nDetails: " ++ details
      | none => "")
    ++ (match report.suggestion with
      | some suggestion => "\nSuggestion: " ++ suggestion
      | none => "")

end Report

end ImageRetention
