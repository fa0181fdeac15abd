import ImageRetention.History
import ImageRetention.Text.Utf8

/-
A history kept in memory: tables of what is selected, listed and stored, and commits whose
listing fails.  A later entry for the same key takes the place of an earlier one.
-/

namespace ImageRetention

/-- A history kept in memory; the last entries come first. -/
structure History.Memory where
  /-- The commits that filters with some arguments select. -/
  roots : List (List String × List String) := []
  /-- The tree listings of commits. -/
  trees : List (String × String) := []
  /-- The stored revisions. -/
  objects : List (String × List UInt8) := []
  /-- The commits whose listing fails. -/
  failing : List String := []
  deriving DecidableEq, Repr

namespace History.Memory

/-! ### Building -/

/-- A history in which a filter selects some commits. -/
def withRoot (memory : Memory) (args commits : List String) : Memory :=
  { memory with roots := (args, commits) :: memory.roots }

/-- A history in which a commit has a tree listing. -/
def withTree (memory : Memory) (commit listing : String) : Memory :=
  { memory with trees := (commit, listing) :: memory.trees }

/-- A history in which the tracked file at a commit is a stored revision with some content. -/
def withBlob (memory : Memory) (commit object content : String) : Memory :=
  let memory := memory.withTree commit ("100644 blob " ++ object ++ "\t.travis.yml\n")
  { memory with objects := (object, Text.Utf8.bytesOf content) :: memory.objects }

/-- A history in which the listing of a commit fails. -/
def withFailingCommit (memory : Memory) (commit : String) : Memory :=
  { memory with failing := commit :: memory.failing }

/-! ### Answers -/

/-- The failure of a question, as git words it. -/
def refusal (command complaint : String) : Failure :=
  .of (.gitFailed { command, exitCode := some 128, stdout := "", stderr := complaint })

/-- The commits that a filter selects, one a line. -/
def commits (memory : Memory) (root : RootFilter) : Except Failure String :=
  match memory.roots.lookup root.args with
  | some commits => .ok (String.intercalate "\n" commits ++ "\n")
  | none =>
    .error (refusal ("git rev-list " ++ String.intercalate " " root.args)
      "fatal: bad revision")

/-- The tree listing of a commit, empty if none was given. -/
def tree (memory : Memory) (commit : CommitId) (path : String) : Except Failure String :=
  if memory.failing.contains commit.text then
    .error (refusal ("git ls-tree " ++ commit.text ++ " -- " ++ path)
      "fatal: not a tree object")
  else .ok ((memory.trees.lookup commit.text).getD "")

/-- The content of a stored revision. -/
def content (memory : Memory) (object : ObjectId) : Except Failure (List UInt8) :=
  match memory.objects.lookup object.text with
  | some content => .ok content
  | none => .error (refusal ("git show " ++ object.text) "fatal: bad object")

/-- What the history answers. -/
def answers (memory : Memory) : History.Answers :=
  ⟨memory.commits, memory.tree, memory.content⟩

end History.Memory

end ImageRetention
