import ImageRetention.Run

/-
A repository's history, as something that can be asked.

* `History`: the three questions, each a run;
* `History.Answers`: answers that depend on nothing but the question;
* `History.askCommits`, `History.askTree`, `History.askContent`: questions that leave an
  event.
-/

namespace ImageRetention

/-- A repository's history.  Its answers are raw texts and bytes, which others take apart. -/
structure History (σ : Type) where
  /-- The commits that a root filter selects, one name a line. -/
  commits : RootFilter → Run σ String
  /-- What is at a path in a commit, one entry a line. -/
  tree : CommitId → String → Run σ String
  /-- What a stored revision holds. -/
  content : ObjectId → Run σ (List UInt8)

namespace History

variable {σ : Type}

/-- Answers that depend on nothing but the question. -/
structure Answers where
  commits : RootFilter → Except Failure String
  tree : CommitId → String → Except Failure String
  content : ObjectId → Except Failure (List UInt8)

/-- The history that gives some answers. -/
def Answers.history (answers : Answers) : History σ :=
  ⟨fun root => Run.ofResult (answers.commits root),
    fun commit path => Run.ofResult (answers.tree commit path),
    fun object => Run.ofResult (answers.content object)⟩

/-- Asks which commits a root filter selects. -/
def askCommits (history : History σ) (root : RootFilter) : Run σ String := do
  Run.emit (.queried (.commits root))
  history.commits root

/-- Asks what is at a path in a commit. -/
def askTree (history : History σ) (commit : CommitId) (path : String) : Run σ String := do
  Run.emit (.queried (.tree commit path))
  history.tree commit path

/-- Asks what a stored revision holds. -/
def askContent (history : History σ) (object : ObjectId) : Run σ (List UInt8) := do
  Run.emit (.queried (.content object))
  history.content object

end History

end ImageRetention
