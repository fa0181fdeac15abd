import Mathlib.Tactic
import ImageRetention.Proofs.Sweep.Anatomy

/-!
The order in which a sweep acts on the outside world.

* `Phases`: the calls of a sweep in the six phases in which they are made;
* `Phases.InOrder`: which calls a phase can make, and what must have been done before it;
* `sweep_transcript`: every sweep makes no call, or is accepted and makes its calls in this
  order.

How far a sweep comes is not said: the phases describe every sweep, wherever it stops.
-/

namespace ImageRetention

open Heard (spoken)
open LiveSet (revListCall lsTreeCall showCall)

/-- The calls of a sweep, with what came of them, in the phases in which they are made. -/
structure Phases where
  /-- Is there a repository? -/
  probe : List Exchange
  /-- Which commits do the root filters select? -/
  commits : List Exchange
  /-- What is at the tracked path in these commits? -/
  trees : List Exchange
  /-- What do the revisions found there hold? -/
  contents : List Exchange
  /-- Which manifests are in the registry? -/
  listing : List Exchange
  /-- The deletions. -/
  deletions : List Exchange

namespace Phases

/-- The calls after the fourth phase, which act on the registry. -/
def afterContents (phases : Phases) : List Exchange := phases.listing ++ phases.deletions

/-- The calls after the third phase. -/
def afterTrees (phases : Phases) : List Exchange := phases.contents ++ phases.afterContents

/-- The calls after the second phase. -/
def afterCommits (phases : Phases) : List Exchange := phases.trees ++ phases.afterTrees

/-- The calls after the first phase. -/
def afterProbe (phases : Phases) : List Exchange := phases.commits ++ phases.afterCommits

/-- All calls, in order. -/
def all (phases : Phases) : List Exchange := phases.probe ++ phases.afterProbe

lemma all_eq (phases : Phases) : phases.all = phases.probe ++ (phases.commits ++ (phases.trees ++
    (phases.contents ++ (phases.listing ++ phases.deletions)))) := rfl

/-- The order of a sweep.  Each phase makes calls of its own kind, and nothing is called after
a phase unless all calls of that phase were made, and succeeded. -/
structure InOrder (phases : Phases) (commandLine : CommandLine) (settings : Settings)
    (path : String) : Prop where
  probe_calls : phases.probe.map Exchange.call <+: [probeCall path]
  /-- There is one call for each root filter, in the order of the filters. -/
  commits_calls :
    phases.commits.map Exchange.call <+: commandLine.rootFilters.map (revListCall path)
  /-- Only commits that were printed are looked into. -/
  trees_calls : ∀ exchange ∈ phases.trees, ∃ commit,
    exchange.call = lsTreeCall path settings.trackedPath commit ∧
    ∃ printed ∈ phases.commits, printed.Selects commit
  /-- Only revisions that were printed are read. -/
  contents_calls : ∀ exchange ∈ phases.contents, ∃ object,
    exchange.call = showCall path object ∧ ∃ printed ∈ phases.trees, printed.Lists object
  /-- The listing is asked for, or read from the file that is given. -/
  listing_calls : phases.listing.map Exchange.call <+:
    [AzureRegistry.listingCall ⟨settings.target, commandLine.manifests⟩]
  deletions_calls : ∀ exchange ∈ phases.deletions, ∃ digest,
    exchange.call = deletionCall settings.target digest
  /-- No call follows a deletion that failed. -/
  deletions_stop : ∀ exchange ∈ phases.deletions.dropLast, exchange.Succeeded
  after_probe : phases.afterProbe ≠ [] → Completed [probeCall path] phases.probe
  after_commits : phases.afterCommits ≠ [] →
    Completed (commandLine.rootFilters.map (revListCall path)) phases.commits
  /-- All commits that were printed are looked into before anything is read. -/
  after_trees : phases.afterTrees ≠ [] → (∀ exchange ∈ phases.trees, exchange.Succeeded) ∧
    ∀ printed ∈ phases.commits, ∀ commit, printed.Selects commit →
      ∃ exchange ∈ phases.trees, exchange.call = lsTreeCall path settings.trackedPath commit
  /-- All revisions that were printed are read before the registry is touched, and one of them
  holds a live tag. -/
  after_contents : phases.afterContents ≠ [] →
    (∀ exchange ∈ phases.contents, exchange.Succeeded) ∧
    (∀ printed ∈ phases.trees, ∀ object, printed.Lists object →
      ∃ exchange ∈ phases.contents, exchange.call = showCall path object) ∧
    ∃ exchange ∈ phases.contents, ∃ reference tag, exchange.Refers reference ∧
      settings.target.Precedes reference ∧ reference.Names tag ∧ tag.text ≠ ""
  /-- The listing is known before anything is deleted, and no dry run deletes. -/
  after_listing : phases.deletions ≠ [] → commandLine.dryRun = false ∧
    Completed [AzureRegistry.listingCall ⟨settings.target, commandLine.manifests⟩] phases.listing

end Phases

variable {σ : Type} {world : World σ} {commandLine : CommandLine} {minAge : Int}
  {settings : Settings} {path : String}

/-- A set with members that stem from references that were read has such a reference. -/
lemma LiveSet.Course.exists_live {commits trees contents : List (Heard path)}
    {live : SortedSet ImageTag}
    (h : HeardCourse settings commandLine.rootFilters commits trees contents (.ok live))
    (hlive : live.isEmpty = false) :
    ∃ exchange ∈ spoken contents, ∃ reference tag, exchange.Refers reference ∧
      settings.target.Precedes reference ∧ reference.Names tag ∧ tag.text ≠ "" := by
  obtain ⟨-, -, hextracted, hselected⟩ := h.of_ok live rfl
  have hne : ∃ tag, tag ∈ live := by
    by_contra hnone
    rw [SortedSet.isEmpty_iff.mpr fun tag htag => hnone ⟨tag, htag⟩] at hlive
    cases hlive
  obtain ⟨tag, htag⟩ := hne
  obtain ⟨exchange, hexchange, reference, hrefers, hprecedes, hnames⟩ :=
    (hselected.mem_iff_refers h.toStages hextracted tag).mp htag
  exact ⟨exchange, hexchange, reference, tag, hrefers, hprecedes, hnames,
    hselected.text_ne_empty htag⟩

section Course

variable {commits trees contents : List (Heard path)}
  {found : Except Failure (SortedSet ImageTag)}

/-- Commits are resolved before anything else is done. -/
lemma LiveSet.Course.resolved
    (h : HeardCourse settings commandLine.rootFilters commits trees contents found)
    (hlater : spoken trees ++ spoken contents ≠ [] ∨ ∃ live, found = .ok live) :
    LiveSet.Resolved commandLine.rootFilters (commits.map Heard.asking) := by
  rcases hlater with hne | ⟨live, hlive⟩
  · exact h.toStages.resolved hne
  · exact (h.of_ok live hlive).1

/-- Revisions are located before any of them is read. -/
lemma LiveSet.Course.located
    (h : HeardCourse settings commandLine.rootFilters commits trees contents found)
    (hlater : spoken contents ≠ [] ∨ ∃ live, found = .ok live) :
    LiveSet.Located settings.trackedPath (commits.map Heard.asking)
      (trees.map Heard.asking) := by
  rcases hlater with hne | ⟨live, hlive⟩
  · exact h.toStages.located hne
  · exact (h.of_ok live hlive).2.1

/-- The phases of a sweep that probed its repository and resolved live tags are in order, if it
touched the registry only with a live tag. -/
lemma Phases.inOrder_of_course {probe listing deletions : List Exchange} {retention : Retention}
    (hprobe : Probed world path probe (.ok ()))
    (hcourse : HeardCourse settings commandLine.rootFilters commits trees contents found)
    (hlive : listing ++ deletions ≠ [] → ∃ live, found = .ok live ∧ live.isEmpty = false)
    (hcollecting : AzureRegistry.Collecting ⟨settings.target, commandLine.manifests⟩
      retention commandLine.dryRun listing deletions) :
    (Phases.mk probe (spoken commits) (spoken trees) (spoken contents) listing
      deletions).InOrder commandLine settings path where
  probe_calls := hprobe.calls
  commits_calls := hcourse.toStages.commits_calls
  trees_calls := hcourse.toStages.trees_calls
  contents_calls := hcourse.toStages.contents_calls
  listing_calls := hcollecting.listing_calls
  deletions_calls := by
    intro exchange hexchange
    obtain ⟨-, -, manifests, -, -, -, -, hcalls⟩ :=
      hcollecting.deletions_calls (List.ne_nil_of_mem hexchange)
    obtain ⟨manifest, -, hcall⟩ :=
      List.mem_map.mp (hcalls.subset (List.mem_map_of_mem hexchange))
    exact ⟨manifest.digest, hcall.symm⟩
  deletions_stop := hcollecting.deletions_stop
  after_probe := fun _ => hprobe.of_ok rfl
  after_commits := by
    intro hne
    have hlater : spoken trees ++ spoken contents ≠ [] ∨ ∃ live, found = .ok live := by
      by_cases hnone : listing ++ deletions = []
      · exact Or.inl (by simpa [afterCommits, afterTrees, afterContents, hnone] using hne)
      · obtain ⟨live, hfound, -⟩ := hlive hnone
        exact Or.inr ⟨live, hfound⟩
    exact (hcourse.resolved hlater).completed hcourse.toStages
  after_trees := by
    intro hne
    have hlater : spoken contents ≠ [] ∨ ∃ live, found = .ok live := by
      by_cases hnone : listing ++ deletions = []
      · exact Or.inl (by simpa [afterTrees, afterContents, hnone] using hne)
      · obtain ⟨live, hfound, -⟩ := hlive hnone
        exact Or.inr ⟨live, hfound⟩
    have hresolved := hcourse.resolved (hlater.imp_left fun hcontents => by simp [hcontents])
    exact (hcourse.located hlater).completed hcourse.toStages hresolved
  after_contents := by
    intro hne
    obtain ⟨live, rfl, hnonempty⟩ := hlive hne
    obtain ⟨-, hlocated, hextracted, -⟩ := hcourse.of_ok live rfl
    obtain ⟨hsucceeded, hcalls⟩ := hextracted.completed hcourse.toStages hlocated
    exact ⟨hsucceeded, hcalls, hcourse.exists_live hnonempty⟩
  after_listing := by
    intro hne
    obtain ⟨hdry, exchange, manifests, rfl, hcall, hsucceeded, -, -⟩ :=
      hcollecting.deletions_calls hne
    exact ⟨hdry, by simpa using hcall, by simpa using hsucceeded⟩

end Course

/-- A sweep that only probed its repository has one phase. -/
lemma Phases.inOrder_of_probed {probe : List Exchange} {result : Except Failure Unit}
    (h : Probed world path probe result) :
    (Phases.mk probe [] [] [] [] []).InOrder commandLine settings path := by
  constructor <;> simp [afterProbe, afterCommits, afterTrees, afterContents, h.calls]

/-- The transcripts of sweeps are in order. -/
lemma Sweeping.exists_phases {record : List Exchange}
    (h : Sweeping world commandLine minAge settings path record) :
    ∃ phases : Phases, record = phases.all ∧ phases.InOrder commandLine settings path := by
  cases h with
  | probed hprobe => exact ⟨_, by simp [Phases.all_eq], Phases.inOrder_of_probed hprobe⟩
  | resolved hprobe hcourse =>
      have hnothing : AzureRegistry.Collecting ⟨settings.target, commandLine.manifests⟩
          ⟨.empty, minAge, world.now⟩ commandLine.dryRun [] [] := ⟨by simp, by simp, by simp⟩
      have hphases := Phases.inOrder_of_course hprobe hcourse (by simp) hnothing
      exact ⟨_, by simp [Phases.all_eq], hphases⟩
  | @collected probe commits trees contents live listing deletions hprobe hcourse hlive
      hcollecting =>
      have hphases := Phases.inOrder_of_course hprobe hcourse (fun _ => ⟨live, rfl, hlive⟩)
        hcollecting
      exact ⟨_, by simp [Phases.all_eq], hphases⟩

/-- A sweep that makes a call has found something at the path of its repository. -/
lemma Sweeping.existsAt {record : List Exchange}
    (h : Sweeping world commandLine minAge settings path record) (hne : record ≠ []) :
    world.existsAt path = true := by
  have hprobed {probe : List Exchange} (hprobe : Probed world path probe (.ok ())) :
      world.existsAt path = true := by
    refine hprobe.existing ?_
    rintro rfl
    simpa using (hprobe.of_ok rfl).calls_eq
  cases h with
  | probed hprobe => exact hprobe.existing hne
  | resolved hprobe _ => exact hprobed hprobe
  | collected hprobe _ _ _ => exact hprobed hprobe

/-- A sweep makes no call at all, unless its minimum age and its settings are accepted, git is
installed and the path of its repository has a meaning.  Then its calls are an initial part of
the six phases in their order. -/
theorem sweep_transcript (world : World σ) (schedules : Schedules) (commandLine : CommandLine)
    (state : σ) :
    let transcript := world.transcript state (sweep world schedules commandLine state).events
    transcript = [] ∨ ∃ minAge settings path,
      Accepted world commandLine state minAge settings path ∧ world.existsAt path = true ∧
      ∃ phases : Phases, transcript = phases.all ∧ phases.InOrder commandLine settings path := by
  intro transcript
  obtain ⟨record, hfits, hrecord⟩ := showsAt_sweep world schedules commandLine state
  obtain rfl : transcript = record := hfits.2
  rcases hrecord with hnone | ⟨minAge, settings, path, haccepted, hsweeping⟩
  · exact Or.inl hnone
  · by_cases hnone : transcript = []
    · exact Or.inl hnone
    · exact Or.inr ⟨minAge, settings, path, haccepted, hsweeping.existsAt hnone,
        hsweeping.exists_phases⟩

end ImageRetention
