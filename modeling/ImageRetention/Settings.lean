import ImageRetention.Image.Target
import ImageRetention.Text.Quoted

/-
What a sweep works on.

* `Settings`: the registry repository, the tracked file, and how many questions are asked at
  a time;
* `Settings.standard`: the settings that hold where nothing else is said;
* `Settings.Changes`: settings given one by one, and `Settings.changed`, which applies them.
-/

namespace ImageRetention

/-- What a sweep works on. -/
structure Settings where
  registry : String
  repository : String
  /-- The path of the file that names build containers, as a path specification. -/
  trackedPath : String
  /-- How many questions to the history may be open at a time. -/
  maxParallel : Nat
  deriving DecidableEq, Repr

namespace Settings

/-- The registry repository that is swept. -/
def target (settings : Settings) : Target := ⟨settings.registry, settings.repository⟩

/-! ### Standard settings -/

/-- The least number of questions that are open at a time by default. -/
def leastParallel : Nat := 10

/-- How many questions are open for each processor by default. -/
def parallelPerProcessor : Nat := 2

/-- How many questions are open at a time by default. -/
def standardParallel (processors : Nat) : Nat :=
  max leastParallel (processors * parallelPerProcessor)

/-- The settings that hold where nothing else is said. -/
def standard (maxParallel : Nat) : Settings :=
  ⟨"bondciimages", "ubuntu-1604", ":/.travis.yml", maxParallel⟩

/-! ### Changes -/

/-- Settings given one by one. -/
structure Changes where
  registry : Option String := none
  repository : Option String := none
  trackedPath : Option String := none
  maxParallel : Option Nat := none
  deriving DecidableEq, Repr

/-- Settings with some of them changed. -/
def changed (settings : Settings) (changes : Changes) : Settings :=
  ⟨changes.registry.getD settings.registry, changes.repository.getD settings.repository,
    changes.trackedPath.getD settings.trackedPath,
    changes.maxParallel.getD settings.maxParallel⟩

/-- Settings as log entries show them. -/
def describe (settings : Settings) : String :=
  "SweepConfig \x7b registry_name: " ++ Text.quoted settings.registry
    ++ ", repository_name: " ++ Text.quoted settings.repository
    ++ ", tracked_path: " ++ Text.quoted settings.trackedPath
    ++ ", max_parallel: " ++ toString settings.maxParallel ++ " \x7d"

end Settings

end ImageRetention
