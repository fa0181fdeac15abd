/-
Failures, as causes inside contexts:

* `IoError`: what the operating system said;
* `Cause`: the failures the program itself tells apart, with their wording in `message`;
* `Cause.restated`: a cause told again, by which nothing is lost (`restated_eq`);
* `Failure`: what went wrong at the root, and what was being done, outermost first;
* `Failure.texts`: the texts of a failure from the outermost context to the root;
* `Failure.chain`: the links behind these texts, in which a cause can be looked for
  (`findSome?_chain`).
-/

namespace ImageRetention

/-! ### Failures of the operating system -/

/-- The kinds of operating-system failure that are told apart. -/
inductive IoKind
  | notFound
  | permissionDenied
  | alreadyExists
  | invalidInput
  | invalidData
  | other
  deriving DecidableEq, Repr

/-- A failure reported by the operating system. -/
structure IoError where
  kind : IoKind
  message : String
  deriving DecidableEq, Repr

namespace IoError

/-- There is nothing at a path, or no such program. -/
def noSuchFile : IoError := ⟨.notFound, "No such file or directory (os error 2)"⟩

/-- A path goes through something that is no directory. -/
def notADirectory : IoError := ⟨.other, "Not a directory (os error 20)"⟩

/-- A directory was read as a file. -/
def isADirectory : IoError := ⟨.other, "Is a directory (os error 21)"⟩

/-- A component of a path is longer than the file system allows. -/
def nameTooLong : IoError := ⟨.other, "File name too long (os error 36)"⟩

/-- A path holds a NUL. -/
def nulInPath : IoError := ⟨.invalidInput, "file name contained an unexpected NUL byte"⟩

/-- An argument or variable of a program holds a NUL. -/
def nulInArgument : IoError := ⟨.invalidInput, "nul byte found in provided data"⟩

/-- A file that must be text is not UTF-8. -/
def notText : IoError := ⟨.invalidData, "stream did not contain valid UTF-8"⟩

/-- A failure told again: its kind and its text are all that is kept of it. -/
def restated (error : IoError) : IoError := ⟨error.kind, error.message⟩

end IoError

/-! ### Causes -/

/-- A program run that ended unsuccessfully, with all it printed. -/
structure FailedProcess where
  /-- The program and its arguments, joined by single spaces. -/
  command : String
  /-- The exit code, or none if a signal ended the process. -/
  exitCode : Option Int
  stdout : String
  stderr : String
  deriving DecidableEq, Repr

/-- The failures the program itself tells apart. -/
inductive Cause
  /-- A git process ended unsuccessfully. -/
  | gitFailed (process : FailedProcess)
  /-- An az process ended unsuccessfully. -/
  | azFailed (process : FailedProcess)
  /-- A process did not end within its time limit. -/
  | timedOut (command : String) (seconds : Nat)
  /-- There is no git on the search path. -/
  | gitMissing
  /-- The given path is no repository. -/
  | notARepository (path : String)
  /-- A line of a tree listing has fewer than three fields. -/
  | badTreeLine (line : String)
  /-- A reference to the swept repository names no tag. -/
  | malformedReference (reference : String)
  /-- Nothing is live, so everything old would be deleted. -/
  | emptyLiveSet
  /-- The minimum age is negative. -/
  | negativeMinAge (days : Int)
  /-- The minimum age is beyond the longest duration. -/
  | minAgeOutOfRange (days : Int)
  /-- A manifest listing cannot be decoded. -/
  | badListing (source reason : String)
  /-- The settings cannot be found or understood. -/
  | badSettings (message : String)
  /-- The operating system failed. -/
  | io (error : IoError)
  /-- Anything else, in words. -/
  | other (message : String)
  deriving DecidableEq, Repr

/-- How a process ended, in words. -/
def describeExit : Option Int → String
  | some code => "exit code " ++ toString code
  | none => "no exit code (terminated by signal)"

namespace Cause

/-- The wording of a cause. -/
def message : Cause → String
  | gitFailed p => "Git command failed with " ++ describeExit p.exitCode ++ ": " ++ p.command
  | azFailed p =>
    "Azure CLI command failed with " ++ describeExit p.exitCode ++ ": " ++ p.command
  | timedOut command seconds =>
    "Command timed out after " ++ toString seconds ++ " seconds: " ++ command
  | gitMissing => "Git is not installed or not found in PATH"
  | notARepository path => "Not a valid git repository: " ++ path
  | badTreeLine line => "Cannot parse ls-tree output: \"" ++ line ++ "\""
  | malformedReference reference =>
    "Image reference \"" ++ reference ++ "\" has no tag after a ':' separator"
  | emptyLiveSet => "No active tags. This can delete all images, so aborting."
  | negativeMinAge days => "--min-age must be non-negative, but got " ++ toString days
  | minAgeOutOfRange days => "--min-age " ++ toString days ++ " days is out of range"
  | badListing source reason => "Invalid manifest listing from " ++ source ++ ": " ++ reason
  | badSettings message => "Configuration error: " ++ message
  | io error => "IO error: " ++ error.message
  | other message => message

/-- Whether a cause is a failed run of an outside program. -/
def isBackendFailure : Cause → Bool
  | gitFailed _ | azFailed _ | timedOut _ _ => true
  | _ => false

/-- A cause told again, part by part, for a report that outlives the failure. -/
def restated : Cause → Cause
  | gitFailed p => gitFailed ⟨p.command, p.exitCode, p.stdout, p.stderr⟩
  | azFailed p => azFailed ⟨p.command, p.exitCode, p.stdout, p.stderr⟩
  | timedOut command seconds => timedOut command seconds
  | gitMissing => gitMissing
  | notARepository path => notARepository path
  | badTreeLine line => badTreeLine line
  | malformedReference reference => malformedReference reference
  | emptyLiveSet => emptyLiveSet
  | negativeMinAge days => negativeMinAge days
  | minAgeOutOfRange days => minAgeOutOfRange days
  | badListing source reason => badListing source reason
  | badSettings message => badSettings message
  | io error => io error.restated
  | other message => other message

/-- Nothing is lost when a cause is told again. -/
@[simp] theorem restated_eq (cause : Cause) : cause.restated = cause := by
  cases cause <;> rfl

/-- The texts of a cause: its wording, and below it that of the operating system. -/
def texts (cause : Cause) : List String :=
  match cause with
  | io error => [cause.message, error.message]
  | _ => [cause.message]

end Cause

/-! ### Failures -/

/-- What went wrong at the bottom of a failure. -/
inductive Root
  /-- One of the causes the program tells apart. -/
  | known (cause : Cause)
  /-- A bare failure of the operating system. -/
  | io (error : IoError)
  /-- A path names an environment variable that is not set. -/
  | unsetVariable (name : String)
  /-- A message and nothing more. -/
  | message (text : String)
  deriving DecidableEq, Repr

/-- The texts of a root, outermost first. -/
def Root.texts : Root → List String
  | known cause => cause.texts
  | io error => [error.message]
  | unsetVariable name =>
    ["error looking key '" ++ name ++ "' up: environment variable not found",
      "environment variable not found"]
  | message text => [text]

/-- One link of a chain of failures, as what it can be recognised. -/
inductive Link
  /-- Words and nothing more, such as a context. -/
  | words (text : String)
  /-- One of the causes the program tells apart. -/
  | known (cause : Cause)
  /-- A failure of the operating system. -/
  | io (error : IoError)
  deriving DecidableEq, Repr

namespace Link

/-- The text of a link. -/
def text : Link → String
  | words text => text
  | known cause => cause.message
  | io error => error.message

/-- The cause a link is, if it is one that the program tells apart. -/
def cause? : Link → Option Cause
  | known cause => some cause
  | _ => none

end Link

/-- The links of a cause: itself, and below it the failure of the operating system. -/
def Cause.chain (cause : Cause) : List Link :=
  match cause with
  | .io error => [.known cause, .io error]
  | _ => [.known cause]

/-- The links of a root, outermost first. -/
def Root.chain : Root → List Link
  | known cause => cause.chain
  | io error => [.io error]
  | root => root.texts.map .words

/-- A failure: its root, and around it what was being done. -/
structure Failure where
  /-- What was being done, outermost first. -/
  contexts : List String
  root : Root
  deriving DecidableEq, Repr

namespace Failure

/-- A failure with no context around it. -/
def of (cause : Cause) : Failure := ⟨[], .known cause⟩

/-- A failure of the operating system with no context around it. -/
def ofIo (error : IoError) : Failure := ⟨[], .io error⟩

/-- A failure that happened while something was being done. -/
def within (failure : Failure) (context : String) : Failure :=
  ⟨context :: failure.contexts, failure.root⟩

/-- The texts from the outermost context to the root. -/
def texts (failure : Failure) : List String :=
  failure.contexts ++ failure.root.texts

/-- The outermost text. -/
def message (failure : Failure) : String :=
  failure.texts.headD ""

/-- The texts below the outermost one. -/
def inner (failure : Failure) : List String :=
  failure.texts.tail

/-- The cause at the root, if it is one that the program tells apart. -/
def cause? (failure : Failure) : Option Cause :=
  match failure.root with
  | .known cause => some cause
  | _ => none

/-- The links from the outermost context to the root. -/
def chain (failure : Failure) : List Link :=
  failure.contexts.map .words ++ failure.root.chain

@[simp] theorem cause?_known (contexts : List String) (cause : Cause) :
    (⟨contexts, .known cause⟩ : Failure).cause? = some cause := rfl

theorem Root_texts_ne_nil (root : Root) : root.texts ≠ [] := by
  cases root with
  | known cause => cases cause <;> simp [Root.texts, Cause.texts]
  | _ => simp [Root.texts]

/-- The texts of the links are the texts of the failure. -/
theorem map_text_chain (failure : Failure) : failure.chain.map Link.text = failure.texts := by
  have hroot : failure.root.chain.map Link.text = failure.root.texts := by
    rcases failure.root with cause | _ | _ | _
    · cases cause <;> rfl
    all_goals rfl
  rw [chain, texts, List.map_append, hroot, List.map_map]
  simp [Function.comp_def, Link.text]

/-- A search of the links finds the cause at the root, however many contexts there are. -/
@[simp] theorem findSome?_chain (failure : Failure) :
    failure.chain.findSome? Link.cause? = failure.cause? := by
  have hcontexts : (failure.contexts.map Link.words).findSome? Link.cause? = none := by
    simp [Link.cause?]
  rw [chain, List.findSome?_append, hcontexts, Option.none_or, cause?]
  rcases failure.root with cause | _ | _ | _
  · cases cause <;> rfl
  all_goals rfl

end Failure

end ImageRetention
