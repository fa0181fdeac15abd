import Mathlib.Tactic
import ImageRetention.FileTree
import ImageRetention.Host
import ImageRetention.Proofs.Settings.Loading

/-!
What a host looks up is all that the program sees of the files.

* `FileTree.meansAbsent_of_find`: nothing is where a path into a tree fails;
* `Host.look`: what a host finds at some paths of a tree;
* `World.AgreeAt`: worlds that differ in their files alone, and not in those at some paths;
* `AgreeAt.effectiveSettings`, `AgreeAt.openRepository`, `AgreeAt.registry`: the parts of a sweep
  that look at files, each where the command line leads to;
* `AgreeAt.sweep`: a sweep looks at no other files;
* `Host.run_world_look`: with what a host found there the program does what it does with all files.
-/

namespace ImageRetention

/-! ### Files that are not found -/

namespace FileTree

variable {tree : FileTree} {path : String} {error : IoError}

lemma meansAbsent_of_step {place : Place} {name : String}
    (h : tree.step place name = .error error) : Host.meansAbsent error = true := by
  cases place with
  | outside =>
      rw [step] at h
      split_ifs at h <;> cases h <;> rfl
  | inside names node =>
      cases node with
      | file bytes =>
          cases h
          rfl
      | directory =>
          rw [step] at h
          split_ifs at h
          · cases h
            rfl
          · split at h <;> cases h
            rfl

lemma meansAbsent_of_steps {names : List String} {place : Place}
    (h : names.foldlM tree.step place = .error error) : Host.meansAbsent error = true := by
  induction names generalizing place with
  | nil => cases h
  | cons name rest ih =>
      rw [List.foldlM_cons] at h
      cases hstep : tree.step place name with
      | error other =>
          rw [hstep] at h
          cases h
          exact meansAbsent_of_step hstep
      | ok next =>
          rw [hstep] at h
          exact ih h

lemma meansAbsent_of_node {place : Place} {slash : Bool} (h : place.node slash = .error error) :
    Host.meansAbsent error = true := by
  rw [Place.node.eq_def] at h
  split at h
  · split_ifs at h
    cases h
    rfl
  · cases h

/-- Nothing is where a path into a tree fails. -/
lemma meansAbsent_of_find (h : tree.find path = .error error) :
    Host.meansAbsent error = true := by
  rw [find] at h
  split at h
  · cases h
    rfl
  split at h
  · cases h
    rfl
  split at h
  · cases h
    rfl
  dsimp only at h
  generalize hplace : List.foldlM tree.step _ _ = result at h
  cases result with
  | error other =>
      cases h
      exact meansAbsent_of_steps hplace
  | ok place => exact meansAbsent_of_node h

end FileTree

/-! ### Files that were looked up -/

namespace Host

/-- What a host finds at some paths of a tree. -/
def look (tree : FileTree) (paths : List String) : Files :=
  paths.map fun path => (path, tree.contents path)

variable {tree : FileTree} {paths : List String} {path : String}

lemma contents_look (h : path ∈ paths) : contents (look tree paths) path = tree.contents path := by
  rw [contents, look, List.lookup_graph _ h, Option.getD_some]

lemma existsAt_look (h : path ∈ paths) : existsAt (look tree paths) path = tree.existsAt path := by
  rw [existsAt, look, List.lookup_graph _ h, FileTree.contents, FileTree.existsAt]
  cases hfind : tree.find path with
  | ok node => cases node <;> rfl
  | error error => simp [FileTree.meansAbsent_of_find hfind]

end Host

/-! ### Worlds that agree at some paths -/

variable {σ : Type}

/-- Worlds differ in their files alone, and not in those at some paths. -/
structure World.AgreeAt (world other : World σ) (paths : List String) : Prop where
  rest : other = { world with existsAt := other.existsAt, contents := other.contents }
  existsAt : ∀ path ∈ paths, other.existsAt path = world.existsAt path
  contents : ∀ path ∈ paths, other.contents path = world.contents path

/-- The paths that a command line leads to: the settings file that is considered, the repository,
and the file with the listing. -/
def World.pathsOf (world : World σ) (commandLine : CommandLine) : List String :=
  (Settings.considered? world commandLine.config).toList ++
    (Path.resolve world commandLine.repoPath).toOption.toList ++ commandLine.manifests.toList

namespace World.AgreeAt

variable {world other : World σ} {commandLine : CommandLine}

lemma effectiveSettings (h : world.AgreeAt other (world.pathsOf commandLine)) :
    effectiveSettings other commandLine = effectiveSettings world commandLine := by
  have halike : Settings.Alike world other commandLine.config := by
    refine ⟨by rw [h.rest], by rw [h.rest], by rw [h.rest], fun path hpath => ?_,
      fun path hpath => ?_⟩
    · exact h.existsAt path (by simp [pathsOf, Option.mem_def.mp hpath])
    · exact h.contents path (by simp [pathsOf, Option.mem_def.mp hpath])
  rw [ImageRetention.effectiveSettings, ImageRetention.effectiveSettings, halike.load]

lemma openRepository (h : world.AgreeAt other (world.pathsOf commandLine)) :
    openRepository other commandLine = openRepository world commandLine := by
  have hinstalled : Git.ensureInstalled other = Git.ensureInstalled world := by
    rw [h.rest]
    rfl
  have hresolve : Path.resolve other commandLine.repoPath =
      Path.resolve world commandLine.repoPath := by
    rw [h.rest]
    rfl
  rw [ImageRetention.openRepository, ImageRetention.openRepository, hinstalled, hresolve]
  cases hpath : Path.resolve world commandLine.repoPath with
  | error failure => rfl
  | ok path =>
      have hexists : other.existsAt path = world.existsAt path :=
        h.existsAt path (by simp [pathsOf, hpath, Except.toOption])
      have hvalid : (Repository.mk path).ensureValid other =
          (Repository.mk path).ensureValid world := by
        rw [Repository.ensureValid, Repository.ensureValid, hexists, h.rest]
        rfl
      have hpure : (Run.ofResult (.ok path) : Run σ String) = pure path := rfl
      simp only [hpure, pure_bind, hvalid]

lemma registry (h : world.AgreeAt other (world.pathsOf commandLine)) (target : Target) :
    (AzureRegistry.mk target commandLine.manifests).registry other =
      (AzureRegistry.mk target commandLine.manifests).registry world := by
  have hlist : (AzureRegistry.mk target commandLine.manifests).list other =
      (AzureRegistry.mk target commandLine.manifests).list world := by
    cases hmanifests : commandLine.manifests with
    | none =>
        rw [h.rest]
        rfl
    | some path =>
        have hread : other.read path = world.read path := by
          funext event state
          rw [World.read, World.read, h.contents path (by simp [pathsOf, hmanifests])]
        simp only [AzureRegistry.list, World.readListing, hread]
  rw [AzureRegistry.registry, AzureRegistry.registry, hlist, h.rest]
  rfl

/-- A sweep looks at files only where the command line leads to. -/
lemma sweep (h : world.AgreeAt other (world.pathsOf commandLine)) (schedules : Schedules) :
    sweep other schedules commandLine = sweep world schedules commandLine := by
  have htags : tagsToKeep other schedules = tagsToKeep world schedules := by
    rw [h.rest]
    rfl
  have hnow : other.now = world.now := by rw [h.rest]
  simp only [ImageRetention.sweep, h.effectiveSettings, h.openRepository, htags, h.registry, hnow]

end World.AgreeAt

/-! ### The program on a host -/

namespace Host

lemma paths_eq (findings : Findings) (commandLine : CommandLine) :
    paths findings commandLine = (world findings).pathsOf commandLine := by
  rw [paths, World.pathsOf]
  refine congrArg (· ++ _) (congrArg₂ (· ++ ·) ?_ ?_)
  · rw [Settings.source_eq]
    cases commandLine.config with
    | some path => rfl
    | none => cases Settings.considered? (world findings) none <;> rfl
  · cases Path.resolve (world findings) commandLine.repoPath <;> rfl

/-- With what a host found in a tree at the paths that the command line leads to, the program does
what it does in a world with all files of the tree. -/
theorem run_world_look (tree : FileTree) (findings : Findings) {arguments : List String}
    {commandLine : CommandLine} (h : CommandLine.ofArguments arguments = .ok commandLine)
    (schedules : Schedules) (responses : List Response) :
    let files := look tree (paths findings commandLine)
    Program.run (world { findings with files }) schedules arguments responses =
      Program.run ((world findings).withTree tree) schedules arguments responses := by
  intro files
  have hagree : ((world findings).withTree tree).AgreeAt (world { findings with files })
      (((world findings).withTree tree).pathsOf commandLine) := by
    refine ⟨rfl, fun path hpath => existsAt_look ?_, fun path hpath => contents_look ?_⟩ <;>
      exact paths_eq findings commandLine ▸ hpath
  simp only [Program.run, h, hagree.sweep]
  rfl

end Host

end ImageRetention
