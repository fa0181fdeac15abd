import Mathlib.Tactic
import ImageRetention.Proofs.History.Repository
import ImageRetention.Proofs.LiveSet.Course

/-!
The stages of a resolution of live tags as runs of git.

* `Stages.asked_commits`, `Stages.asked_trees`, `Stages.asked_contents`: what each stage can ask
  for;
* `Stages.commits_calls`, `Stages.trees_calls`, `Stages.contents_calls`: the calls that can be
  made in each stage;
* `Resolved.completed`, `Located.completed`, `Extracted.completed`: what must have been called,
  and printed, when a stage is over;
* `Selected.mem_iff_refers`: the tags are those of the references that were printed.

Everything is said in terms of what the programs printed, as they printed it in this run.
-/

namespace ImageRetention.LiveSet

open Heard (spoken)

variable {path tracked : String} {roots : List RootFilter}
  {commits trees contents : List (Heard path)}

/-- The run of git that lists the commits of a root filter. -/
def revListCall (path : String) (root : RootFilter) : Call :=
  gitCall path ("rev-list" :: root.args)

/-- The run of git that lists what is at a path in a commit. -/
def lsTreeCall (path tracked : String) (commit : CommitId) : Call :=
  gitCall path ["ls-tree", commit.text, "--", tracked]

/-- The run of git that prints a stored revision. -/
def showCall (path : String) (object : ObjectId) : Call :=
  gitCall path ["show", object.text]

/-- The stages of a resolution of live images, with what was exchanged in them. -/
abbrev HeardStages (tracked : String) (roots : List RootFilter)
    (commits trees contents : List (Heard path)) : Prop :=
  Stages tracked roots (commits.map Heard.asking) (trees.map Heard.asking)
    (contents.map Heard.asking)

/-! ### What is taken from the answers -/

lemma Stages.reads_commits (h : HeardStages tracked roots commits trees contents) :
    ∀ heard ∈ commits, heard.asking.Reads Asking.selected Exchange.Selects := by
  intro heard hheard
  have hquery := h.commits_asked.subset
    (List.mem_map_of_mem (List.mem_map_of_mem hheard))
  obtain ⟨root, -, hEq⟩ := List.mem_map.mp hquery
  exact Asking.reads_selected hEq.symm

lemma Stages.reads_trees (h : HeardStages tracked roots commits trees contents) :
    ∀ heard ∈ trees, heard.asking.Reads Asking.located Exchange.Lists := by
  intro heard hheard
  obtain ⟨commit, hquery, -⟩ := h.trees_asked _ (List.mem_map_of_mem hheard)
  exact Asking.reads_located hquery

lemma Stages.reads_contents (h : HeardStages tracked roots commits trees contents) :
    ∀ heard ∈ contents, heard.asking.Reads Asking.found Exchange.Refers := by
  intro heard hheard
  obtain ⟨object, hquery, -⟩ := h.contents_asked _ (List.mem_map_of_mem hheard)
  exact Asking.reads_found hquery

lemma Stages.yields_commit (h : HeardStages tracked roots commits trees contents)
    (hresolved : Resolved roots (commits.map Heard.asking)) (commit : CommitId) :
    Yields ((commits.map Heard.asking).map Asking.selected) commit ↔
      ∃ exchange ∈ spoken commits, exchange.Selects commit :=
  Heard.yields_iff h.reads_commits hresolved.answered commit

lemma Stages.yields_object (h : HeardStages tracked roots commits trees contents)
    (hlocated : Located tracked (commits.map Heard.asking) (trees.map Heard.asking))
    (object : ObjectId) :
    Yields ((trees.map Heard.asking).map Asking.located) object ↔
      ∃ exchange ∈ spoken trees, exchange.Lists object :=
  Heard.yields_iff h.reads_trees hlocated.answered object

lemma Stages.yields_reference (h : HeardStages tracked roots commits trees contents)
    (hextracted : Extracted (trees.map Heard.asking) (contents.map Heard.asking))
    (reference : ImageReference) :
    Yields ((contents.map Heard.asking).map Asking.found) reference ↔
      ∃ exchange ∈ spoken contents, exchange.Refers reference :=
  Heard.yields_iff h.reads_contents hextracted.answered reference

/-! ### Stages that were entered -/

lemma ne_nil_of_spoken {record : List (Heard path)} (h : spoken record ≠ []) :
    record.map Heard.asking ≠ [] := by
  rintro hnil
  rw [List.map_eq_nil_iff.mp hnil] at h
  exact h rfl

lemma Stages.located (h : HeardStages tracked roots commits trees contents)
    (hne : spoken contents ≠ []) :
    Located tracked (commits.map Heard.asking) (trees.map Heard.asking) :=
  h.contents_after (ne_nil_of_spoken hne)

/-- The first stage is over if anything was called in the later ones: a revision that is read
was found in a tree. -/
lemma Stages.resolved (h : HeardStages tracked roots commits trees contents)
    (hne : spoken trees ++ spoken contents ≠ []) : Resolved roots (commits.map Heard.asking) := by
  refine h.trees_after ?_
  by_cases htrees : spoken trees = []
  · rw [htrees, List.nil_append] at hne
    obtain ⟨asking, hasking⟩ := List.exists_mem_of_ne_nil _ (ne_nil_of_spoken hne)
    obtain ⟨object, -, found, hfound, -⟩ := h.contents_asked asking hasking
    rintro hnil
    simp [hnil] at hfound
  · exact ne_nil_of_spoken htrees

/-! ### The calls that can be made -/

lemma Stages.commits_calls (h : HeardStages tracked roots commits trees contents) :
    (spoken commits).map Exchange.call <+: roots.map (revListCall path) := by
  have hanswered : ∀ heard ∈ commits.dropLast, heard.asking.outcome = .ok () := by
    have hstop := h.commits_stop
    rw [← List.map_dropLast] at hstop
    exact Heard.answered (fun heard hheard =>
      h.reads_commits heard (List.mem_of_mem_dropLast hheard)) hstop
  have hasked := h.commits_asked.map (Query.call path)
  simp only [List.map_map] at hasked
  exact (Heard.calls_prefix_queries hanswered).trans hasked

/-- The filters that are asked about are given. -/
lemma Stages.asked_commits (h : HeardStages tracked roots commits trees contents) :
    ∀ heard ∈ commits, ∃ root ∈ roots, heard.asking.query.call path = revListCall path root := by
  intro heard hheard
  have hquery := h.commits_asked.subset (List.mem_map_of_mem (List.mem_map_of_mem hheard))
  obtain ⟨root, hroot, hEq⟩ := List.mem_map.mp hquery
  exact ⟨root, hroot, by rw [← hEq]; rfl⟩

/-- The commits that are looked into were printed. -/
lemma Stages.asked_trees (h : HeardStages tracked roots commits trees contents) :
    ∀ heard ∈ trees, ∃ commit, heard.asking.query.call path = lsTreeCall path tracked commit ∧
      ∃ printed ∈ spoken commits, printed.Selects commit := by
  intro heard hheard
  obtain ⟨commit, hquery, hyields⟩ := h.trees_asked _ (List.mem_map_of_mem hheard)
  have hresolved := h.trees_after (List.ne_nil_of_mem (List.mem_map_of_mem hheard))
  refine ⟨commit, ?_, (h.yields_commit hresolved commit).mp hyields⟩
  rw [hquery]
  rfl

/-- The revisions that are read were printed. -/
lemma Stages.asked_contents (h : HeardStages tracked roots commits trees contents) :
    ∀ heard ∈ contents, ∃ object, heard.asking.query.call path = showCall path object ∧
      ∃ printed ∈ spoken trees, printed.Lists object := by
  intro heard hheard
  obtain ⟨object, hquery, hyields⟩ := h.contents_asked _ (List.mem_map_of_mem hheard)
  have hlocated := h.contents_after (List.ne_nil_of_mem (List.mem_map_of_mem hheard))
  refine ⟨object, ?_, (h.yields_object hlocated object).mp hyields⟩
  rw [hquery]
  rfl

lemma Stages.trees_calls (h : HeardStages tracked roots commits trees contents) :
    ∀ exchange ∈ spoken trees, ∃ commit, exchange.call = lsTreeCall path tracked commit ∧
      ∃ printed ∈ spoken commits, printed.Selects commit := by
  intro exchange hexchange
  obtain ⟨heard, hheard, -, hcall⟩ := Heard.exists_heard hexchange
  rw [hcall]
  exact h.asked_trees heard hheard

lemma Stages.contents_calls (h : HeardStages tracked roots commits trees contents) :
    ∀ exchange ∈ spoken contents, ∃ object, exchange.call = showCall path object ∧
      ∃ printed ∈ spoken trees, printed.Lists object := by
  intro exchange hexchange
  obtain ⟨heard, hheard, -, hcall⟩ := Heard.exists_heard hexchange
  rw [hcall]
  exact h.asked_contents heard hheard

/-! ### The calls that must have been made -/

lemma Resolved.completed (h : Resolved roots (commits.map Heard.asking))
    (hstages : HeardStages tracked roots commits trees contents) :
    Completed (roots.map (revListCall path)) (spoken commits) := by
  have hcompleted := Heard.completed (Heard.answered hstages.reads_commits h.answered)
  have hasked := congrArg (List.map (Query.call path)) h.asked
  simp only [List.map_map] at hasked
  exact ⟨hcompleted.calls_eq.trans hasked, hcompleted.succeeded⟩

lemma Located.completed (h : Located tracked (commits.map Heard.asking) (trees.map Heard.asking))
    (hstages : HeardStages tracked roots commits trees contents)
    (hresolved : Resolved roots (commits.map Heard.asking)) :
    (∀ exchange ∈ spoken trees, exchange.Succeeded) ∧
      ∀ printed ∈ spoken commits, ∀ commit, printed.Selects commit →
        ∃ exchange ∈ spoken trees, exchange.call = lsTreeCall path tracked commit := by
  have hanswered := Heard.answered hstages.reads_trees h.answered
  refine ⟨(Heard.completed hanswered).succeeded, fun printed hprinted commit hcommit => ?_⟩
  have hyields := (hstages.yields_commit hresolved commit).mpr ⟨printed, hprinted, hcommit⟩
  exact Heard.exists_call hanswered (h.asked commit hyields)

lemma Extracted.completed (h : Extracted (trees.map Heard.asking) (contents.map Heard.asking))
    (hstages : HeardStages tracked roots commits trees contents)
    (hlocated : Located tracked (commits.map Heard.asking) (trees.map Heard.asking)) :
    (∀ exchange ∈ spoken contents, exchange.Succeeded) ∧
      ∀ printed ∈ spoken trees, ∀ object, printed.Lists object →
        ∃ exchange ∈ spoken contents, exchange.call = showCall path object := by
  have hanswered := Heard.answered hstages.reads_contents h.answered
  refine ⟨(Heard.completed hanswered).succeeded, fun printed hprinted object hobject => ?_⟩
  have hyields := (hstages.yields_object hlocated object).mpr ⟨printed, hprinted, hobject⟩
  exact Heard.exists_call hanswered (h.asked object hyields)

/-! ### The tags -/

/-- The tags are those of the printed references that start like those to the repository. -/
lemma Selected.mem_iff_refers {target : Target} {tags : SortedSet ImageTag}
    (h : Selected target (contents.map Heard.asking) tags)
    (hstages : HeardStages tracked roots commits trees contents)
    (hextracted : Extracted (trees.map Heard.asking) (contents.map Heard.asking))
    (tag : ImageTag) :
    tag ∈ tags ↔ ∃ exchange ∈ spoken contents, ∃ reference, exchange.Refers reference ∧
      target.Precedes reference ∧ reference.Names tag := by
  rw [h.mem_iff_names]
  simp only [hstages.yields_reference hextracted]
  constructor
  · rintro ⟨reference, ⟨exchange, hexchange, hrefers⟩, hnames⟩
    exact ⟨exchange, hexchange, reference, hrefers, hnames⟩
  · rintro ⟨exchange, hexchange, reference, hrefers, hnames⟩
    exact ⟨reference, ⟨exchange, hexchange, hrefers⟩, hnames⟩

end ImageRetention.LiveSet
