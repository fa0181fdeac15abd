import ImageRetention.Command.Git
import ImageRetention.History

/-
The history of a repository on disk, as git tells it.

* `Repository`: a repository by its path;
* `Repository.ensureValid`: there is something at the path that git takes for a repository;
* `Repository.history`: the three questions as runs of git.
-/

namespace ImageRetention

/-- A repository on disk. -/
structure Repository where
  path : String
  deriving DecidableEq, Repr

namespace Repository

variable {σ : Type}

/-- Fails unless git takes what is at the path for a repository.  Why it does not is only
logged. -/
def ensureValid (world : World σ) (repository : Repository) : Run σ Unit :=
  let invalid : Run σ Unit := Run.failFor (.notARepository repository.path)
  if world.existsAt repository.path then
    (Git.gitDir.inDirectory repository.path |>.success world).orElse fun failure => do
      Run.log .debug .git ("rev-parse --git-dir failed: " ++ failure.message)
      invalid
  else invalid

/-- The commits that a root filter selects. -/
def commits (world : World σ) (repository : Repository) (root : RootFilter) : Run σ String :=
  (Git.revList root.args |>.inDirectory repository.path |>.labelled root.text
    |>.stdout world).within
      ("Failed to list commits for root '" ++ root.text ++ "'")

/-- What is at a path in a commit. -/
def tree (world : World σ) (repository : Repository) (commit : CommitId) (path : String) :
    Run σ String :=
  (Git.lsTree commit.text path |>.inDirectory repository.path |>.labelled commit.text
    |>.stdout world).within
      ("Failed to list '" ++ path ++ "' at commit " ++ commit.text)

/-- What a stored revision holds. -/
def content (world : World σ) (repository : Repository) (object : ObjectId) :
    Run σ (List UInt8) :=
  (Git.showObject object.text |>.inDirectory repository.path |>.labelled object.text
    |>.bytes world).within
      ("Failed to read object " ++ object.text)

/-- The history of a repository. -/
def history (world : World σ) (repository : Repository) : History σ :=
  ⟨repository.commits world, repository.tree world, repository.content world⟩

end Repository

end ImageRetention
