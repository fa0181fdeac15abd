import ImageRetention.Collection
import ImageRetention.CommandLine
import ImageRetention.History.Repository
import ImageRetention.LiveSet
import ImageRetention.Registry.Azure
import ImageRetention.Settings.Loading

/-
A whole sweep.

* `sweep`: the minimum age and the settings first, then the repository, the live tags, and
  the collection.  The first failure ends it, so nothing is deleted unless all that decides
  about deletion is known.
-/

namespace ImageRetention

variable {σ : Type}

/-- A set of tags as log entries show it. -/
def describeTags (tags : SortedSet ImageTag) : String :=
  "\x7b" ++ String.intercalate "," (tags.toList.map ImageTag.text) ++ "\x7d"

/-- The settings that a command line leads to. -/
def effectiveSettings (world : World σ) (commandLine : CommandLine) : Run σ Settings := do
  let loaded ← Settings.load world commandLine.config
  let settings := loaded.changed commandLine.changes
  Run.log .debug .commandLine ("Effective configuration: " ++ settings.describe)
  return settings

/-- The repository that a command line names. -/
def openRepository (world : World σ) (commandLine : CommandLine) : Run σ Repository := do
  Git.ensureInstalled world
  let path ← Run.ofResult (Path.resolve world commandLine.repoPath)
  let repository : Repository := ⟨path⟩
  repository.ensureValid world
  return repository

/-- The tags that must be kept; there is at least one. -/
def tagsToKeep (world : World σ) (schedules : Schedules) (settings : Settings)
    (repository : Repository) (roots : List RootFilter) : Run σ (SortedSet ImageTag) := do
  let tags ← liveTags (repository.history world) schedules settings roots
  let live ← Run.ofExcept (requireLive tags)
  Run.log .info .commandLine ("Active tags: " ++ describeTags live)
  return live

/-- A whole sweep. -/
def sweep (world : World σ) (schedules : Schedules) (commandLine : CommandLine) :
    Run σ Unit := do
  let minAge ← Run.ofExcept commandLine.minAge
  let settings ← effectiveSettings world commandLine
  let repository ← openRepository world commandLine
  let live ← tagsToKeep world schedules settings repository commandLine.rootFilters
  let azure : AzureRegistry := ⟨settings.target, commandLine.manifests⟩
  let garbage ←
    collect (azure.registry world) ⟨live, minAge, world.now⟩ commandLine.dryRun
  Run.emit (.concluded garbage.length)

end ImageRetention
