import ImageRetention.History
import ImageRetention.History.CommitList
import ImageRetention.History.TreeListing
import ImageRetention.Image.Assignment
import ImageRetention.Image.Selection
import ImageRetention.LiveSet.Pool
import ImageRetention.Settings

/-
The live tags: those of the images that the history still refers to.

* `LiveSet.resolve`: root filters to the commits that any of them selects;
* `LiveSet.locate`: commits to the distinct revisions of the tracked file in them;
* `LiveSet.extract`: revisions to the references they hold;
* `LiveSet.select`: references to tags of the swept repository;
* `liveTags`: all of these in a row, and `requireLive`: refusing an empty result.

Each part is asked once about each root filter, commit and revision, and any failure ends
the whole.
-/

namespace ImageRetention

namespace LiveSet

variable {σ : Type}

open Text (quoted)

/-! ### Commits -/

/-- Adds the commits that some root filters select, one filter after the other. -/
def resolveFrom (history : History σ) (known : SortedSet CommitId) :
    List RootFilter → Run σ (SortedSet CommitId)
  | [] => pure known
  | root :: rest => do
    Run.log .debug .commits ("Listing commits for root '" ++ root.text ++ "'")
    let output ← (history.askCommits root).within
      ("Resolving commits for root '" ++ root.text ++ "'")
    let all := known.insertAll (CommitList.commits output)
    Run.log .debug .commits
      ("Root '" ++ root.text ++ "' added " ++ toString (all.size - known.size) ++ " commits ("
        ++ toString all.size ++ " total)")
    resolveFrom history all rest

/-- The commits that any of some root filters selects. -/
def resolve (history : History σ) (roots : List RootFilter) : Run σ (SortedSet CommitId) :=
  resolveFrom history .empty roots

/-! ### Revisions of the tracked file -/

/-- The log entry about a line of a tree listing. -/
def lineEntry (line : String) : Event :=
  .logged ⟨.trace, .revisions, "Parsing ls-tree output: \"" ++ line ++ "\""⟩

/-- The revisions that a tree listing names. -/
def readListing (listing : String) : Run σ (List ObjectId) := do
  Run.emitEach lineEntry (TreeListing.visited listing)
  Run.ofExcept (TreeListing.objects listing)

/-- The revisions of a path at a commit. -/
def locateAt (history : History σ) (path : String) (commit : CommitId) :
    Run σ (List ObjectId) := do
  let listing ← (history.askTree commit path).within
    ("Locating '" ++ path ++ "' at commit " ++ commit.text)
  readListing listing

/-- The distinct revisions of a path at some commits. -/
def locate (history : History σ) (schedule : Schedule) (limit : Nat) (path : String)
    (commits : SortedSet CommitId) : Run σ (SortedSet ObjectId) := do
  let objects ← Pool.gather limit schedule (locateAt history path) commits.toList
  Run.log .debug .revisions
    ("Found " ++ toString objects.size ++ " distinct revisions of '" ++ path ++ "' across "
      ++ toString commits.size ++ " commits")
  return objects

/-! ### References -/

/-- A set of references as log entries show it. -/
def describeReferences (references : SortedSet ImageReference) : String :=
  let shown := references.toList.map fun reference =>
    "ImageReference(" ++ quoted reference.text ++ ")"
  "\x7b" ++ String.intercalate ", " shown ++ "\x7d"

/-- The references in a stored revision. -/
def extractFrom (history : History σ) (object : ObjectId) : Run σ (List ImageReference) := do
  let content ← (history.askContent object).within ("Reading content object " ++ object.text)
  let found := Image.scan content
  Run.log .debug .references
    ("Object " ++ object.text ++ " references " ++ describeReferences found)
  return found.toList

/-- The references in some stored revisions. -/
def extract (history : History σ) (schedule : Schedule) (limit : Nat)
    (objects : List ObjectId) : Run σ (SortedSet ImageReference) := do
  let references ← Pool.gather limit schedule (extractFrom history) objects
  Run.log .debug .references ("Container references: " ++ describeReferences references)
  return references

/-! ### Tags -/

/-- The log entry about a reference to something else. -/
def ignoredEntry (target : Target) (reference : ImageReference) : Event :=
  .logged ⟨.info, .tags,
    "Ignoring image " ++ reference.text ++ " since it doesn't match " ++ target.expectedPrefix⟩

/-- The tags of the swept repository that some references keep alive. -/
def select (target : Target) (references : SortedSet ImageReference) :
    Run σ (SortedSet ImageTag) := do
  Run.emitEach (ignoredEntry target) (target.ignored references.toList)
  let tags ← Run.ofExcept (target.tagsOf references.toList)
  return SortedSet.ofList tags

end LiveSet

/-! ### The whole -/

/-- In which order answers arrive, for the two kinds of questions asked side by side. -/
structure Schedules where
  listing : Schedule
  reading : Schedule

/-- Answers arrive in the order of their questions. -/
def Schedules.inOrder : Schedules := ⟨.inOrder, .inOrder⟩

variable {σ : Type}

/-- The references in the tracked file at the commits that some root filters select. -/
def liveImages (history : History σ) (schedules : Schedules) (path : String) (limit : Nat)
    (roots : List RootFilter) : Run σ (SortedSet ImageReference) := do
  let commits ← LiveSet.resolve history roots
  Run.log .info .live ("Found " ++ toString commits.size ++ " live commits")
  let objects ← LiveSet.locate history schedules.listing limit path commits
  Run.log .info .live
    ("Found " ++ toString objects.size ++ " distinct revisions of " ++ path)
  LiveSet.extract history schedules.reading limit objects.toList

/-- The tags of the swept repository that the history still refers to. -/
def liveTags (history : History σ) (schedules : Schedules) (settings : Settings)
    (roots : List RootFilter) : Run σ (SortedSet ImageTag) := do
  let references ←
    liveImages history schedules settings.trackedPath settings.maxParallel roots
  LiveSet.select settings.target references

/-- Refuses an empty set of live tags, for which every old image would be garbage. -/
def requireLive (tags : SortedSet ImageTag) : Except Cause (SortedSet ImageTag) :=
  if tags.isEmpty then .error .emptyLiveSet else .ok tags

end ImageRetention
