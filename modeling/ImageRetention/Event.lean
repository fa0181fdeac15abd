import ImageRetention.History.Name
import ImageRetention.Invocation
import ImageRetention.Log.Entry
import ImageRetention.Manifest
import ImageRetention.RootFilter

/-
What a run does that can be seen from outside.

* `Query`: a question to a repository's history;
* `Event`: a log entry, a question, a run of a program, a read of a file, or a step of a
  collection.
-/

namespace ImageRetention

/-- A question to a repository's history. -/
inductive Query
  /-- Which commits does a root filter select? -/
  | commits (root : RootFilter)
  /-- What is at a path in a commit? -/
  | tree (commit : CommitId) (path : String)
  /-- What does a stored revision hold? -/
  | content (object : ObjectId)
  deriving DecidableEq, Repr

/-- Something a run does that can be seen from outside. -/
inductive Event
  | logged (entry : Log.Entry)
  | queried (query : Query)
  | invoked (invocation : Invocation)
  | settingsRead (path : String)
  | listingRead (path : String)
  /-- The deletion of a manifest is begun. -/
  | deleting (manifest : Manifest)
  /-- A manifest has been deleted. -/
  | deleted (manifest : Manifest)
  /-- A manifest is reported as collected. -/
  | reported (manifest : Manifest)
  /-- The collection is complete, with so many manifests. -/
  | concluded (count : Nat)
  deriving DecidableEq, Repr

namespace Event

/-- The log entry that an event is. -/
def logged? : Event → Option Log.Entry
  | logged entry => some entry
  | _ => none

/-- The question that an event is. -/
def query? : Event → Option Query
  | queried query => some query
  | _ => none

/-- The run of a program that an event is. -/
def invocation? : Event → Option Invocation
  | invoked invocation => some invocation
  | _ => none

/-- The manifest that an event reports. -/
def reported? : Event → Option Manifest
  | reported manifest => some manifest
  | _ => none

end Event

end ImageRetention
