import Mathlib.Tactic
import ImageRetention.Proofs.LiveSet.Calls
import ImageRetention.Proofs.Registry.Azure
import ImageRetention.Proofs.World.Quiet
import ImageRetention.Sweep

/-!
The anatomy of a sweep: its transcript, part by part.

* `Repository.shows_ensureValid`: the repository is probed by a single call;
* `Repository.shows_liveTags`, `shows_tagsToKeep`: the live tags are resolved by calls of git
  alone;
* `Accepted`: what must hold before a sweep makes any call;
* `Sweeping`: the transcripts that a sweep can leave, by how far it came;
* `showsAt_sweep`: every sweep leaves such a transcript.
-/

namespace ImageRetention

open Heard (spoken)
open LiveSet (Course)
open Observer (shows_log shows_pure shows_fail shows_ofExcept shows_emit)

variable {σ : Type}

/-! ### The probe -/

/-- The run of git that tells whether there is a repository. -/
def probeCall (path : String) : Call :=
  gitCall path ["rev-parse", "--git-dir"]

/-- What probing a repository leaves behind. -/
structure Probed (world : World σ) (path : String) (record : List Exchange)
    (result : Except Failure Unit) : Prop where
  existing : record ≠ [] → world.existsAt path = true
  calls : record.map Exchange.call <+: [probeCall path]
  of_ok : result = .ok () → Completed [probeCall path] record
  of_error : ∀ failure, result = .error failure → failure = .of (.notARepository path)

lemma Repository.shows_ensureValid (world : World σ) (repository : Repository) :
    world.observer.Shows (repository.ensureValid world) (Probed world repository.path) := by
  rw [ensureValid]
  by_cases hexists : world.existsAt repository.path = true
  · rw [if_pos hexists, Run.orElse]
    refine (((Git.shows_execute world rfl).map fun _ => ()).attempt.bind fun answer =>
      show world.observer.Shows _ fun record result => record = [] ∧
        (result = .ok () → answer = .ok ()) ∧ ∀ failure, result = .error failure →
          failure = .of (.notARepository repository.path) from ?_).mono ?_
    · cases answer with
      | ok value =>
          refine (shows_pure value).mono ?_
          rintro record result ⟨rfl, rfl⟩
          exact ⟨rfl, fun _ => rfl, by simp⟩
      | error failure =>
          refine ((shows_log _ _ _).after_silent (shows_fail _)).mono ?_
          rintro record result ⟨rfl, rfl⟩
          exact ⟨rfl, by simp, by simp⟩
    · rintro record result (⟨failure, ⟨_, -, ⟨⟩⟩, -⟩ |
        ⟨answer, before, after, rfl, ⟨_, ⟨inner, hcalled, rfl⟩, hanswer⟩, rfl, hresult, herror⟩)
      cases hanswer
      rw [List.append_nil]
      refine ⟨fun _ => hexists, hcalled.calls, fun hok => ?_, herror⟩
      have hinner := hresult hok
      cases inner with
      | error failure => cases hinner
      | ok output =>
          obtain ⟨exchange, bytes, rfl, ⟨hcall, hsucceeded, -⟩, -⟩ := hcalled.of_ok output rfl
          exact ⟨congrArg (fun call => [call]) hcall, by simpa using hsucceeded⟩
  · rw [if_neg hexists]
    refine (shows_fail _).mono ?_
    rintro record result ⟨rfl, rfl⟩
    exact ⟨by simp, by simp, by simp, by simp⟩

/-! ### The live tags -/

lemma requireLive_eq_ok {tags live : SortedSet ImageTag} :
    requireLive tags = .ok live ↔ tags.isEmpty = false ∧ tags = live := by
  rw [requireLive]
  cases hempty : tags.isEmpty <;> simp

/-- The course of a resolution of live tags, with what was exchanged in it. -/
abbrev HeardCourse {path : String} (settings : Settings) (roots : List RootFilter)
    (commits trees contents : List (Heard path)) (result : Except Failure (SortedSet ImageTag)) :
    Prop :=
  Course settings roots (commits.map Heard.asking) (trees.map Heard.asking)
    (contents.map Heard.asking) result

/-- A resolution of live tags takes its course by calls of git alone, with an account of each
question. -/
lemma Repository.shows_accounted (world : World σ) (repository : Repository)
    (schedules : Schedules) (settings : Settings) (roots : List RootFilter) :
    world.observer.Shows (liveTags (repository.history world) schedules settings roots)
      fun record result => ∃ commits trees contents : List (Accounted world repository.path),
        record = (commits ++ (trees ++ contents)).flatMap Accounted.exchanges ∧
        Course settings roots (commits.map Accounted.asking) (trees.map Accounted.asking)
          (contents.map Accounted.asking) result := by
  intro state
  obtain ⟨record, ⟨accounts, haccounts, hfits⟩, commits, trees, contents, rfl, hcourse⟩ :=
    LiveSet.shows_liveTags (Repository.hears world repository) schedules settings roots state
  obtain ⟨commits, others, rfl, rfl, hothers⟩ := List.map_eq_append_iff.mp haccounts
  obtain ⟨trees, contents, rfl, rfl, rfl⟩ := List.map_eq_append_iff.mp hothers
  exact ⟨_, hfits, commits, trees, contents, rfl, hcourse⟩

lemma Accounted.map_heard {world : World σ} {path : String}
    (accounts : List (Accounted world path)) :
    (accounts.map Accounted.heard).map Heard.asking = accounts.map Accounted.asking := by
  simp [Accounted.heard]

lemma Accounted.spoken_heard {world : World σ} {path : String}
    (accounts : List (Accounted world path)) :
    spoken (accounts.map Accounted.heard) = accounts.flatMap Accounted.exchanges := by
  simp [spoken, List.flatMap_map, Accounted.heard]

/-- A resolution of live tags takes its course by calls of git alone. -/
lemma Repository.shows_liveTags (world : World σ) (repository : Repository)
    (schedules : Schedules) (settings : Settings) (roots : List RootFilter) :
    world.observer.Shows (liveTags (repository.history world) schedules settings roots)
      fun record result => ∃ commits trees contents : List (Heard repository.path),
        record = spoken commits ++ (spoken trees ++ spoken contents) ∧
        HeardCourse settings roots commits trees contents result := by
  refine (repository.shows_accounted world schedules settings roots).mono ?_
  rintro record result ⟨commits, trees, contents, rfl, hcourse⟩
  refine ⟨commits.map Accounted.heard, trees.map Accounted.heard, contents.map Accounted.heard,
    ?_, ?_⟩
  · simp only [Accounted.spoken_heard, List.flatMap_append]
  · simpa only [HeardCourse, Accounted.map_heard] using hcourse

lemma shows_tagsToKeep (world : World σ) (schedules : Schedules) (settings : Settings)
    (path : String) (roots : List RootFilter) :
    world.observer.Shows (tagsToKeep world schedules settings ⟨path⟩ roots) fun record result =>
      ∃ commits trees contents : List (Heard path),
        record = spoken commits ++ (spoken trees ++ spoken contents) ∧
        ∃ found, HeardCourse settings roots commits trees contents found ∧
          ∀ live, result = .ok live → found = .ok live ∧ live.isEmpty = false := by
  refine ((Repository.shows_liveTags world ⟨path⟩ schedules settings roots).bind fun tags =>
    (shows_ofExcept (requireLive tags)).bind fun live =>
      (shows_log _ _ _).after_silent (shows_pure live)).mono ?_
  rintro record result (⟨failure, ⟨commits, trees, contents, rfl, hcourse⟩, rfl⟩ |
    ⟨tags, _, after, rfl, ⟨commits, trees, contents, rfl, hcourse⟩,
      ⟨failure, ⟨rfl, -⟩, rfl⟩ | ⟨live, _, _, rfl, ⟨rfl, hrequire⟩, rfl, rfl⟩⟩)
  · exact ⟨commits, trees, contents, rfl, _, hcourse, by simp⟩
  · exact ⟨commits, trees, contents, by simp, _, hcourse, by simp⟩
  · refine ⟨commits, trees, contents, by simp, _, hcourse, ?_⟩
    rintro _ ⟨⟩
    obtain ⟨hne, rfl⟩ := requireLive_eq_ok.mp (mapError_eq_ok.mp hrequire.symm)
    exact ⟨rfl, hne⟩

/-! ### The whole -/

/-- What must hold before a sweep makes any call. -/
structure Accepted (world : World σ) (commandLine : CommandLine) (state : σ) (minAge : Int)
    (settings : Settings) (path : String) : Prop where
  minAge_eq : commandLine.minAge = .ok minAge
  settings_eq : (effectiveSettings world commandLine state).result = .ok settings
  installed : Git.isInstalled world = true
  path_eq : Path.resolve world commandLine.repoPath = .ok path

/-- The transcripts that a sweep can leave, by how far it came. -/
inductive Sweeping (world : World σ) (commandLine : CommandLine) (minAge : Int)
    (settings : Settings) (path : String) : List Exchange → Prop
  | probed {probe : List Exchange} {result : Except Failure Unit}
      (hprobe : Probed world path probe result) :
      Sweeping world commandLine minAge settings path probe
  | resolved {probe : List Exchange} {commits trees contents : List (Heard path)}
      {found : Except Failure (SortedSet ImageTag)} (hprobe : Probed world path probe (.ok ()))
      (hcourse : HeardCourse settings commandLine.rootFilters commits trees contents found) :
      Sweeping world commandLine minAge settings path
        (probe ++ (spoken commits ++ (spoken trees ++ spoken contents)))
  | collected {probe : List Exchange} {commits trees contents : List (Heard path)}
      {live : SortedSet ImageTag} {listing deletions : List Exchange}
      (hprobe : Probed world path probe (.ok ()))
      (hcourse : HeardCourse settings commandLine.rootFilters commits trees contents (.ok live))
      (hlive : live.isEmpty = false)
      (hcollecting : AzureRegistry.Collecting ⟨settings.target, commandLine.manifests⟩
        ⟨live, minAge, world.now⟩ commandLine.dryRun listing deletions) :
      Sweeping world commandLine minAge settings path
        (probe ++ ((spoken commits ++ (spoken trees ++ spoken contents)) ++
          (listing ++ deletions)))

lemma quiet_ensureInstalled (world : World σ) : (Git.ensureInstalled world).Quiet := by
  rw [Git.ensureInstalled]
  split
  · exact Run.quiet_pure ()
  · exact Run.quiet_fail _

lemma isInstalled_of_ensureInstalled {world : World σ} {state : σ}
    (h : (Git.ensureInstalled world state).result = .ok ()) : Git.isInstalled world = true := by
  rw [Git.ensureInstalled] at h
  split at h
  · assumption
  · cases h

/-- Every sweep makes no call at all, or leaves a transcript of this kind. -/
theorem showsAt_sweep (world : World σ) (schedules : Schedules) (commandLine : CommandLine)
    (state : σ) :
    world.observer.ShowsAt (sweep world schedules commandLine) state fun record _ =>
      record = [] ∨ ∃ minAge settings path,
        Accepted world commandLine state minAge settings path ∧
        Sweeping world commandLine minAge settings path record := by
  rw [sweep]
  refine (Run.quiet_ofResult _).showsAt_bind (fun _ _ => Or.inl rfl) fun minAge hminAge => ?_
  refine (quiet_effectiveSettings world commandLine).showsAt_bind (fun _ _ => Or.inl rfl)
    fun settings hsettings => ?_
  rw [openRepository]
  simp only [bind_assoc, pure_bind]
  refine (quiet_ensureInstalled world).showsAt_bind (fun _ _ => Or.inl rfl)
    fun _ hinstalled => ?_
  refine (Run.quiet_ofResult _).showsAt_bind (fun _ _ => Or.inl rfl) fun path hpath => ?_
  have haccepted : Accepted world commandLine state minAge settings path :=
    ⟨mapError_eq_ok.mp hminAge, hsettings, isInstalled_of_ensureInstalled hinstalled, hpath⟩
  have hconcluded (count : Nat) : world.observer.Ignores (.concluded count) := fun _ => ⟨rfl, rfl⟩
  refine (((Repository.shows_ensureValid world ⟨path⟩).bind fun _ =>
    (shows_tagsToKeep world schedules settings path commandLine.rootFilters).bind fun live =>
      (AzureRegistry.shows_collect world ⟨settings.target, commandLine.manifests⟩
        ⟨live, minAge, world.now⟩ commandLine.dryRun).bind fun garbage =>
          shows_emit (hconcluded garbage.length)) state).mono ?_
  rintro record result (⟨failure, hprobe, rfl⟩ | ⟨⟨⟩, probe, _, rfl, hprobe,
    ⟨failure, ⟨commits, trees, contents, rfl, found, hcourse, -⟩, rfl⟩ |
      ⟨live, _, _, rfl, ⟨commits, trees, contents, rfl, found, hcourse, hlive⟩, hcollect⟩⟩)
  · exact Or.inr ⟨minAge, settings, path, haccepted, .probed hprobe⟩
  · exact Or.inr ⟨minAge, settings, path, haccepted, .resolved hprobe hcourse⟩
  · obtain ⟨rfl, hne⟩ := hlive live rfl
    rcases hcollect with ⟨failure, ⟨listing, deletions, rfl, hcollecting⟩, rfl⟩ |
      ⟨garbage, _, _, rfl, ⟨listing, deletions, rfl, hcollecting⟩, rfl, rfl⟩
    · exact Or.inr ⟨minAge, settings, path, haccepted, .collected hprobe hcourse hne hcollecting⟩
    · rw [List.append_nil]
      exact Or.inr ⟨minAge, settings, path, haccepted, .collected hprobe hcourse hne hcollecting⟩

end ImageRetention
