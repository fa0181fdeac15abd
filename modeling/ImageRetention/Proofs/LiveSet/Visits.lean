import Mathlib.Tactic
import ImageRetention.History.Memory
import ImageRetention.Proofs.History.Listing
import ImageRetention.Proofs.LiveSet.Course
import ImageRetention.Proofs.LiveSet.Traced

/-!
Each root filter, commit and revision is visited once.

* `Asking.root?`, `Asking.commit?`, `Asking.object?`: what a question is about;
* `LiveSet.NamesCommit`, `LiveSet.NamesObject`, `LiveSet.Listed`: what the answers in a record
  say;
* `LiveSet.Visits`: which questions a resolution asks, if it succeeds and if it fails;
* `Course.visits`: it follows from the course of a resolution;
* `liveTags_visits`: so it holds for every history, and for all questions that are asked of it.

The questions are counted in the record of a history that keeps them, and what is to be visited
is read off the answers in the same record.  Nothing is assumed about the answers, which may be
different each time.
-/

namespace ImageRetention

variable {σ α : Type}

/-! ### What a question is about -/

/-- The root filter that a question is about. -/
def Query.root? : Query → Option RootFilter
  | commits root => some root
  | _ => none

/-- The commit that a question is about. -/
def Query.commit? : Query → Option CommitId
  | tree commit _ => some commit
  | _ => none

/-- The revision that a question is about. -/
def Query.object? : Query → Option ObjectId
  | content object => some object
  | _ => none

namespace Asking

/-- The root filter that was asked about. -/
def root? (asking : Asking) : Option RootFilter := asking.query.root?

/-- The commit that was asked about. -/
def commit? (asking : Asking) : Option CommitId := asking.query.commit?

/-- The revision that was asked about. -/
def object? (asking : Asking) : Option ObjectId := asking.query.object?

lemma filterMap_root (record : List Asking) :
    record.filterMap root? = (record.map query).filterMap Query.root? :=
  List.filterMap_map.symm

lemma filterMap_commit (record : List Asking) :
    record.filterMap commit? = (record.map query).filterMap Query.commit? :=
  List.filterMap_map.symm

lemma filterMap_object (record : List Asking) :
    record.filterMap object? = (record.map query).filterMap Query.object? :=
  List.filterMap_map.symm

/-- Questions of one kind are questions about some items. -/
lemma exists_map_query {question : α → Query} {record : List Asking}
    (h : ∀ asking ∈ record, ∃ item, asking.query = question item) :
    ∃ items : List α, record.map query = items.map question := by
  have hrange : record.map query ∈ Set.range (List.map question) := by
    rw [Set.range_list_map]
    intro asked hasked
    obtain ⟨asking, hasking, rfl⟩ := List.mem_map.mp hasked
    obtain ⟨item, hitem⟩ := h asking hasking
    exact ⟨item, hitem.symm⟩
  obtain ⟨items, hitems⟩ := hrange
  exact ⟨items, hitems.symm⟩

end Asking

namespace LiveSet

variable {record before after : List Asking} {path : String} {roots : List RootFilter}
  {commits trees contents : List Asking}

/-- An answer in a record names a commit. -/
def NamesCommit (record : List Asking) (commit : CommitId) : Prop :=
  ∃ root output, .commits root (.ok output) ∈ record ∧
    ∃ line ∈ Text.lines output.toList, CommitList.Names line commit

/-- A listing of a path in a record names a revision. -/
def NamesObject (record : List Asking) (path : String) (object : ObjectId) : Prop :=
  ∃ commit listing, .tree commit path (.ok listing) ∈ record ∧
    ∃ line ∈ Text.lines listing.toList, TreeListing.Names line object

/-- The listing of a path at a commit is in a record, and can be read. -/
def Listed (record : List Asking) (path : String) (commit : CommitId) : Prop :=
  ∃ listing, .tree commit path (.ok listing) ∈ record ∧
    ∀ line ∈ Text.lines listing.toList, 3 ≤ (Text.fields line).length

/-- The questions of a resolution, with its result: each root filter is asked about in its turn,
each commit and each revision once, and nothing that no answer names. -/
structure Visits (path : String) (roots : List RootFilter) (record : List Asking)
    (result : Except Failure α) : Prop where
  /-- No commit is asked about twice. -/
  commits_once : (record.filterMap Asking.commit?).Nodup
  /-- Only commits that some answer names are asked about, and only for the path. -/
  commits_named : ∀ commit other answer, .tree commit other answer ∈ record →
    other = path ∧ NamesCommit record commit
  /-- No revision is asked about twice. -/
  objects_once : (record.filterMap Asking.object?).Nodup
  /-- Only revisions that some listing names are asked about. -/
  objects_named : ∀ object answer, .content object answer ∈ record →
    NamesObject record path object
  /-- A resolution that succeeds has asked about all root filters in their order, and about all
  commits and revisions that are named. -/
  of_ok : ∀ value, result = .ok value → record.filterMap Asking.root? = roots ∧
    (∀ commit, commit ∈ record.filterMap Asking.commit? ↔ NamesCommit record commit) ∧
    ∀ object, object ∈ record.filterMap Asking.object? ↔ NamesObject record path object
  /-- A root filter that gets no answer is the last question, and the resolution fails.  The
  questions are about the root filters up to this one, and the others are answered. -/
  of_failed_root : ∀ root failure, .commits root (.error failure) ∈ record →
    (∃ asked rest answered, roots = asked ++ root :: rest ∧
      record = answered ++ [.commits root (.error failure)] ∧
      answered.map Asking.query = asked.map Query.commits ∧
      ∀ asking ∈ answered, ∃ other output, asking = .commits other (.ok output)) ∧
    ∃ other, result = .error other
  /-- If no root filter fails to get an answer then all of them are asked about, even if the
  resolution fails. -/
  of_no_failed_root : (∀ root failure, .commits root (.error failure) ∉ record) →
    record.filterMap Asking.root? = roots
  /-- Before a revision is asked about, all root filters have been, and the listings of all
  commits have arrived and been read. -/
  read_last : ∀ before object answer after, record = before ++ .content object answer :: after →
    before.filterMap Asking.root? = roots ∧
      ∀ commit, NamesCommit record commit → Listed before path commit

/-! ### What is asked about, stage by stage -/

lemma Resolved.filterMap_root (h : Resolved roots commits) :
    commits.filterMap Asking.root? = roots := by
  rw [Asking.filterMap_root, h.asked, List.filterMap_map]
  exact List.filterMap_some

/-- A part of a list without some item lies before that item. -/
lemma prefix_of_append_eq {front back : List Asking} {asking : Asking}
    (hsplit : front ++ back = before ++ asking :: after) (hfront : asking ∉ front) :
    front <+: before := by
  rcases List.append_eq_append_iff.mp hsplit with ⟨more, hbefore, -⟩ | ⟨more, hmore, hback⟩
  · exact ⟨more, hbefore.symm⟩
  · cases more with
    | nil => exact ⟨[], by simpa using hmore⟩
    | cons other rest =>
        obtain ⟨rfl, -⟩ := List.cons.inj hback
        exact absurd (by simp [hmore]) hfront

section Stages

variable (h : Stages path roots commits trees contents)
include h

lemma Stages.eq_commits {asking : Asking} (hasking : asking ∈ commits) :
    ∃ root answer, asking = .commits root answer := by
  obtain ⟨root, -, hroot⟩ :=
    List.mem_map.mp (h.commits_asked.subset (List.mem_map_of_mem hasking))
  exact ⟨root, Asking.eq_commits hroot.symm⟩

lemma Stages.eq_tree {asking : Asking} (hasking : asking ∈ trees) :
    ∃ commit answer, asking = .tree commit path answer ∧
      Yields (commits.map Asking.selected) commit := by
  obtain ⟨commit, hquery, hyields⟩ := h.trees_asked asking hasking
  obtain ⟨answer, hEq⟩ := Asking.eq_tree hquery
  exact ⟨commit, answer, hEq, hyields⟩

lemma Stages.eq_content {asking : Asking} (hasking : asking ∈ contents) :
    ∃ object answer, asking = .content object answer ∧
      Yields (trees.map Asking.located) object := by
  obtain ⟨object, hquery, hyields⟩ := h.contents_asked asking hasking
  obtain ⟨answer, hEq⟩ := Asking.eq_content hquery
  exact ⟨object, answer, hEq, hyields⟩

/-- What a question is about tells the stage it belongs to. -/
lemma Stages.mem_cases {asking : Asking} (hasking : asking ∈ commits ++ (trees ++ contents)) :
    (asking ∈ commits ∧ ∃ root answer, asking = .commits root answer) ∨
      (asking ∈ trees ∧ ∃ commit answer, asking = .tree commit path answer) ∨
      asking ∈ contents ∧ ∃ object answer, asking = .content object answer := by
  simp only [List.mem_append] at hasking
  rcases hasking with hmem | hmem | hmem
  · exact Or.inl ⟨hmem, h.eq_commits hmem⟩
  · obtain ⟨commit, answer, hEq, -⟩ := h.eq_tree hmem
    exact Or.inr (Or.inl ⟨hmem, commit, answer, hEq⟩)
  · obtain ⟨object, answer, hEq, -⟩ := h.eq_content hmem
    exact Or.inr (Or.inr ⟨hmem, object, answer, hEq⟩)

lemma Stages.commits_mem {root : RootFilter} {answer : Except Failure String}
    (hasking : .commits root answer ∈ commits ++ (trees ++ contents)) :
    .commits root answer ∈ commits := by
  rcases h.mem_cases hasking with ⟨hmem, -⟩ | ⟨-, _, _, ⟨⟩⟩ | ⟨-, _, _, ⟨⟩⟩
  exact hmem

lemma Stages.tree_mem {commit : CommitId} {other : String} {answer : Except Failure String}
    (hasking : .tree commit other answer ∈ commits ++ (trees ++ contents)) :
    .tree commit other answer ∈ trees := by
  rcases h.mem_cases hasking with ⟨-, _, _, ⟨⟩⟩ | ⟨hmem, -⟩ | ⟨-, _, _, ⟨⟩⟩
  exact hmem

lemma Stages.content_mem {object : ObjectId} {answer : Except Failure (List UInt8)}
    (hasking : .content object answer ∈ commits ++ (trees ++ contents)) :
    .content object answer ∈ contents := by
  rcases h.mem_cases hasking with ⟨-, _, _, ⟨⟩⟩ | ⟨-, _, _, ⟨⟩⟩ | ⟨hmem, -⟩
  exact hmem

/-- Each stage asks about what a record says was asked about: root filters in the first, commits
in the second, and revisions in the third. -/
lemma Stages.map_query :
    commits.map Asking.query =
        ((commits ++ (trees ++ contents)).filterMap Asking.root?).map Query.commits ∧
      trees.map Asking.query =
        ((commits ++ (trees ++ contents)).filterMap Asking.commit?).map (Query.tree · path) ∧
      contents.map Asking.query =
        ((commits ++ (trees ++ contents)).filterMap Asking.object?).map Query.content := by
  obtain ⟨asked, -, hasked⟩ := List.prefix_map_iff.mp h.commits_asked
  obtain ⟨visited, hvisited⟩ := Asking.exists_map_query fun asking hasking =>
    (h.trees_asked asking hasking).imp fun _ => And.left
  obtain ⟨read, hread⟩ := Asking.exists_map_query fun asking hasking =>
    (h.contents_asked asking hasking).imp fun _ => And.left
  simp only [Asking.filterMap_root, Asking.filterMap_commit, Asking.filterMap_object,
    List.map_append, List.filterMap_append, hasked, hvisited, hread, List.filterMap_map]
  simp [Function.comp_def, Query.root?, Query.commit?, Query.object?]

lemma Stages.mem_commit_iff (commit : CommitId) :
    commit ∈ (commits ++ (trees ++ contents)).filterMap Asking.commit? ↔
      .tree commit path ∈ trees.map Asking.query := by
  rw [h.map_query.2.1]
  simp

lemma Stages.mem_object_iff (object : ObjectId) :
    object ∈ (commits ++ (trees ++ contents)).filterMap Asking.object? ↔
      .content object ∈ contents.map Asking.query := by
  rw [h.map_query.2.2]
  simp

lemma Stages.commits_nodup :
    ((commits ++ (trees ++ contents)).filterMap Asking.commit?).Nodup := by
  have hnodup := h.trees_once
  rw [h.map_query.2.1] at hnodup
  exact hnodup.of_map

lemma Stages.objects_nodup :
    ((commits ++ (trees ++ contents)).filterMap Asking.object?).Nodup := by
  have hnodup := h.contents_once
  rw [h.map_query.2.2] at hnodup
  exact hnodup.of_map

/-- After the first stage all root filters have been asked about. -/
lemma Stages.filterMap_root_eq (hresolved : Resolved roots commits) :
    (commits ++ (trees ++ contents)).filterMap Asking.root? = roots := by
  have hasked := hresolved.asked
  rw [h.map_query.1] at hasked
  exact List.map_injective_iff.mpr (fun _ _ => Query.commits.inj) hasked

/-! ### What the answers name -/

lemma Stages.yields_commit_iff {commit : CommitId} :
    Yields (commits.map Asking.selected) commit ↔
      NamesCommit (commits ++ (trees ++ contents)) commit := by
  constructor
  · rintro ⟨found, hfound, hmem⟩
    obtain ⟨asking, hasking, hselected⟩ := List.mem_map.mp hfound
    obtain ⟨root, answer, rfl⟩ := h.eq_commits hasking
    obtain ⟨output, rfl, rfl⟩ := Asking.selected_eq_ok.mp hselected
    exact ⟨root, output, List.mem_append_left _ hasking, CommitList.mem_commits_iff.mp hmem⟩
  · rintro ⟨root, output, hasking, hline⟩
    exact ⟨CommitList.commits output,
      List.mem_map.mpr ⟨_, h.commits_mem hasking, Asking.selected_eq_ok.mpr ⟨output, rfl, rfl⟩⟩,
      CommitList.mem_commits_iff.mpr hline⟩

lemma Stages.names_of_yields {object : ObjectId}
    (hyields : Yields (trees.map Asking.located) object) :
    NamesObject (commits ++ (trees ++ contents)) path object := by
  obtain ⟨found, hfound, hmem⟩ := hyields
  obtain ⟨asking, hasking, hlocated⟩ := List.mem_map.mp hfound
  obtain ⟨commit, answer, rfl, -⟩ := h.eq_tree hasking
  obtain ⟨listing, rfl, hobjects⟩ := Asking.located_eq_ok.mp hlocated
  exact ⟨commit, listing, by simp [hasking],
    ((TreeListing.objectsOf_eq_ok hobjects).2 object).mp hmem⟩

/-- Every commit that is asked about is named by an answer. -/
lemma Stages.names_of_mem_commit {commit : CommitId}
    (hmem : commit ∈ (commits ++ (trees ++ contents)).filterMap Asking.commit?) :
    NamesCommit (commits ++ (trees ++ contents)) commit := by
  obtain ⟨asking, hasking, hquery⟩ := List.mem_map.mp ((h.mem_commit_iff commit).mp hmem)
  obtain ⟨_, _, rfl, hyields⟩ := h.eq_tree hasking
  obtain ⟨rfl, -⟩ := Query.tree.inj hquery
  exact h.yields_commit_iff.mp hyields

/-- Every revision that is asked about is named by a listing. -/
lemma Stages.names_of_mem_object {object : ObjectId}
    (hmem : object ∈ (commits ++ (trees ++ contents)).filterMap Asking.object?) :
    NamesObject (commits ++ (trees ++ contents)) path object := by
  obtain ⟨asking, hasking, hquery⟩ := List.mem_map.mp ((h.mem_object_iff object).mp hmem)
  obtain ⟨_, _, rfl, hyields⟩ := h.eq_content hasking
  obtain rfl := Query.content.inj hquery
  exact h.names_of_yields hyields

/-- A revision that some listing names is found, if all listings can be read. -/
lemma Stages.yields_of_names (hlocated : Located path commits trees) {object : ObjectId}
    (hnames : NamesObject (commits ++ (trees ++ contents)) path object) :
    Yields (trees.map Asking.located) object := by
  obtain ⟨commit, listing, hasking, hline⟩ := hnames
  have hasking := h.tree_mem hasking
  obtain ⟨found, hfound⟩ := hlocated.answered _ (List.mem_map_of_mem hasking)
  obtain ⟨other, hother, hobjects⟩ := Asking.located_eq_ok.mp hfound
  cases hother
  exact ⟨found, List.mem_map.mpr ⟨_, hasking, hfound⟩,
    ((TreeListing.objectsOf_eq_ok hobjects).2 object).mpr hline⟩

/-- After the second stage the listings of all commits have arrived and been read. -/
lemma Stages.listed (hlocated : Located path commits trees) {commit : CommitId}
    (hnames : NamesCommit (commits ++ (trees ++ contents)) commit) :
    Listed (commits ++ trees) path commit := by
  have hasked := hlocated.asked commit (h.yields_commit_iff.mpr hnames)
  obtain ⟨asking, hasking, hquery⟩ := List.mem_map.mp hasked
  obtain ⟨answer, rfl⟩ := Asking.eq_tree hquery
  obtain ⟨found, hfound⟩ := hlocated.answered _ (List.mem_map_of_mem hasking)
  obtain ⟨listing, rfl, hobjects⟩ := Asking.located_eq_ok.mp hfound
  exact ⟨listing, by simp [hasking], (TreeListing.objectsOf_eq_ok hobjects).1⟩

/-! ### Where a course ends -/

/-- The third stage is entered only after the first two. -/
lemma Stages.resolved_of_contents (hcontents : contents ≠ []) : Resolved roots commits := by
  obtain ⟨asking, hasking⟩ := List.exists_mem_of_ne_nil _ hcontents
  obtain ⟨object, -, -, found, hfound, -⟩ := h.eq_content hasking
  obtain ⟨other, hother, -⟩ := List.mem_map.mp hfound
  exact h.trees_after (List.ne_nil_of_mem hother)

/-- A root filter that gets no answer is the last thing that is asked about. -/
lemma Stages.eq_of_failed_root {root : RootFilter} {failure : Failure}
    (hfails : .commits root (.error failure) ∈ commits) :
    ∃ asked rest answered, roots = asked ++ root :: rest ∧
      commits ++ (trees ++ contents) = answered ++ [.commits root (.error failure)] ∧
      answered.map Asking.query = asked.map Query.commits ∧
      ∀ asking ∈ answered, ∃ other output, asking = .commits other (.ok output) := by
  -- the first stage is not over, so the others have not been entered
  have hunresolved : ¬Resolved roots commits := fun hresolved => by
    obtain ⟨found, hfound⟩ := hresolved.answered _ (List.mem_map_of_mem hfails)
    obtain ⟨output, ⟨⟩, -⟩ := Asking.selected_eq_ok.mp hfound
  obtain rfl : trees = [] := by_contra fun htrees => hunresolved (h.trees_after htrees)
  obtain rfl : contents = [] :=
    by_contra fun hcontents => hunresolved (h.resolved_of_contents hcontents)
  obtain rfl | ⟨answered, last, rfl⟩ := List.eq_nil_or_concat' commits
  · simp at hfails
  have hselected : ∀ asking ∈ answered, ∃ found, asking.selected = .ok found := by
    have hstop := h.commits_stop
    rwa [List.dropLast_concat, NoneFails, List.forall_mem_map] at hstop
  obtain rfl : .commits root (.error failure) = last := by
    rcases List.mem_append.mp hfails with hmem | hmem
    · obtain ⟨found, hfound⟩ := hselected _ hmem
      obtain ⟨output, ⟨⟩, -⟩ := Asking.selected_eq_ok.mp hfound
    · exact List.mem_singleton.mp hmem
  -- the root filters that were asked about come first in the list, and end with this one
  obtain ⟨asked, others, rfl, hasked, hothers⟩ : ∃ asked others, roots = asked ++ others ∧
      asked.map Query.commits = answered.map Asking.query ∧
      [.commits root] <+: others.map Query.commits := by
    obtain ⟨tail, htail⟩ := h.commits_asked
    rw [List.map_append, List.append_assoc] at htail
    obtain ⟨asked, others, hroots, hasked, hothers⟩ := List.map_eq_append_iff.mp htail.symm
    exact ⟨asked, others, hroots, hasked, tail, hothers.symm⟩
  obtain ⟨rest, rfl⟩ : ∃ rest, others = root :: rest := by
    cases others with
    | nil => simp at hothers
    | cons other rest =>
        obtain rfl : root = other := by simpa using hothers
        exact ⟨rest, rfl⟩
  refine ⟨asked, rest, answered, rfl, by simp, hasked.symm, fun asking hasking => ?_⟩
  obtain ⟨found, hfound⟩ := hselected asking hasking
  obtain ⟨other, answer, rfl⟩ := h.eq_commits (List.mem_append_left _ hasking)
  obtain ⟨output, rfl, -⟩ := Asking.selected_eq_ok.mp hfound
  exact ⟨other, output, rfl⟩

/-- Before a revision is asked about, the first two stages have been gone through. -/
lemma Stages.before_content {object : ObjectId} {answer : Except Failure (List UInt8)}
    (hsplit : commits ++ (trees ++ contents) = before ++ .content object answer :: after) :
    before.filterMap Asking.root? = roots ∧
      ∀ commit, NamesCommit (commits ++ (trees ++ contents)) commit →
        Listed before path commit := by
  have hmem : .content object answer ∈ commits ++ (trees ++ contents) := by simp [hsplit]
  have hcontents := List.ne_nil_of_mem (h.content_mem hmem)
  have hresolved := h.resolved_of_contents hcontents
  have hfront : commits ++ trees <+: before := by
    refine prefix_of_append_eq (by rw [List.append_assoc, hsplit]) fun hfront => ?_
    rcases List.mem_append.mp hfront with hfront | hfront
    · obtain ⟨root, _, ⟨⟩⟩ := h.eq_commits hfront
    · obtain ⟨commit, _, ⟨⟩, -⟩ := h.eq_tree hfront
  refine ⟨?_, fun commit hnames => ?_⟩
  · have hwhole : before.filterMap Asking.root? <+: roots := by
      rw [← h.filterMap_root_eq hresolved, hsplit]
      exact (List.prefix_append before _).filterMap _
    have hfirst : roots <+: before.filterMap Asking.root? := by
      rw [← hresolved.filterMap_root]
      exact ((List.prefix_append commits trees).trans hfront).filterMap _
    exact hwhole.eq_of_length_le hfirst.length_le
  · obtain ⟨listing, hlisting, hlong⟩ := h.listed (h.contents_after hcontents) hnames
    exact ⟨listing, hfront.subset hlisting, hlong⟩

end Stages

/-- Either the first stage is over, or a root filter got no answer. -/
lemma Course.resolved_or_failed {settings : Settings}
    {result : Except Failure (SortedSet ImageTag)}
    (h : Course settings roots commits trees contents result) :
    Resolved roots commits ∨ ∃ root failure, .commits root (.error failure) ∈ commits := by
  cases result with
  | ok tags => exact Or.inl (h.of_ok tags rfl).1
  | error failure =>
      rcases h.of_error failure rfl with hfails | hfails | hfails | ⟨reference, hyields, -⟩
      · obtain ⟨asking, hasking, hselected⟩ := List.mem_map.mp hfails
        obtain ⟨root, answer, rfl⟩ := h.eq_commits hasking
        obtain ⟨inner, rfl, -⟩ := map_mapError_eq_error.mp hselected
        exact Or.inr ⟨root, inner, hasking⟩
      · obtain ⟨asking, hasking, -⟩ := List.mem_map.mp hfails
        exact Or.inl (h.trees_after (List.ne_nil_of_mem hasking))
      · obtain ⟨asking, hasking, -⟩ := List.mem_map.mp hfails
        exact Or.inl (h.resolved_of_contents (List.ne_nil_of_mem hasking))
      · obtain ⟨found, hfound, -⟩ := hyields
        obtain ⟨asking, hasking, -⟩ := List.mem_map.mp hfound
        exact Or.inl (h.resolved_of_contents (List.ne_nil_of_mem hasking))

/-- The course of a resolution visits everything once. -/
theorem Course.visits {settings : Settings} {result : Except Failure (SortedSet ImageTag)}
    (h : Course settings roots commits trees contents result) :
    Visits settings.trackedPath roots (commits ++ (trees ++ contents)) result where
  commits_once := h.commits_nodup
  commits_named commit other answer hasking := by
    obtain ⟨_, _, hEq, hyields⟩ := h.eq_tree (h.tree_mem hasking)
    obtain ⟨rfl, rfl, -⟩ := Asking.tree.inj hEq
    exact ⟨rfl, h.yields_commit_iff.mp hyields⟩
  objects_once := h.objects_nodup
  objects_named object answer hasking := by
    obtain ⟨_, _, hEq, hyields⟩ := h.eq_content (h.content_mem hasking)
    obtain ⟨rfl, -⟩ := Asking.content.inj hEq
    exact h.names_of_yields hyields
  of_ok tags htags := by
    obtain ⟨hresolved, hlocated, hextracted, -⟩ := h.of_ok tags htags
    refine ⟨h.filterMap_root_eq hresolved, fun commit => ?_, fun object => ?_⟩
    · refine ⟨h.names_of_mem_commit, fun hnames => (h.mem_commit_iff commit).mpr ?_⟩
      exact hlocated.asked commit (h.yields_commit_iff.mpr hnames)
    · refine ⟨h.names_of_mem_object, fun hnames => (h.mem_object_iff object).mpr ?_⟩
      exact hextracted.asked object (h.yields_of_names hlocated hnames)
  of_failed_root root failure hasking := by
    have hfails := h.commits_mem hasking
    refine ⟨h.eq_of_failed_root hfails, ?_⟩
    cases result with
    | error other => exact ⟨other, rfl⟩
    | ok tags =>
        obtain ⟨found, hfound⟩ :=
          (h.of_ok tags rfl).1.answered _ (List.mem_map_of_mem hfails)
        obtain ⟨output, ⟨⟩, -⟩ := Asking.selected_eq_ok.mp hfound
  of_no_failed_root hnone := by
    rcases h.resolved_or_failed with hresolved | ⟨root, failure, hfails⟩
    · exact h.filterMap_root_eq hresolved
    · exact absurd (List.mem_append_left _ hfails) (hnone root failure)
  read_last _ _ _ _ hsplit := h.before_content hsplit

end LiveSet

/-- Whatever a history answers and whenever its answers arrive, a resolution of live tags visits
each root filter, commit and revision once. -/
theorem liveTags_visits (history : History σ) (schedules : Schedules) (settings : Settings)
    (roots : List RootFilter) (state : σ) :
    LiveSet.Visits settings.trackedPath roots
      (history.askings (fun asked => liveTags asked schedules settings roots) state)
      (liveTags history schedules settings roots state).result := by
  have hshows := LiveSet.shows_liveTags history.traced_hears schedules settings roots
  let resolution (asked : History (σ × List Asking)) := liveTags asked schedules settings roots
  obtain ⟨commits, trees, contents, hrecord, hcourse⟩ :=
    @History.shows_askings _ _ history resolution _ hshows state
  rw [(extends_liveTags history schedules settings roots state []).2.2] at hcourse
  rw [hrecord]
  exact hcourse.visits

/-- A branch is named twice, names a commit twice, and both its commits have the same revision of
the tracked file.  Each commit is asked about once, and so is the revision. -/
theorem liveTags_visits_memory :
    let rooted := ({} : History.Memory).withRoot ["master"] ["c1", "c2", "c1"]
    let tracked := rooted.withBlob "c1" "b1"
      "CI_BUILD_CONTAINER=bondciimages.azurecr.io/ubuntu-1604:v1\n"
    let memory := tracked.withTree "c2" "100644 blob b1\t.travis.yml\n"
    let history : History Unit := memory.answers.history
    let settings := Settings.standard 10
    let master : RootFilter := ⟨["master"]⟩
    let record := history.askings
      (fun asked => liveTags asked .inOrder settings [master, master]) ()
    (∃ tags, (liveTags history .inOrder settings [master, master] ()).result = .ok tags) ∧
      record.filterMap Asking.root? = [master, master] ∧
      record.filterMap Asking.commit? = [⟨"c1"⟩, ⟨"c2"⟩] ∧
      record.filterMap Asking.object? = [⟨"b1"⟩] ∧
      LiveSet.NamesObject record settings.trackedPath ⟨"b1"⟩ := by
  intro rooted tracked memory history settings master record
  have hvisits := liveTags_visits history .inOrder settings [master, master] ()
  have hlive : (liveTags history .inOrder settings [master, master]
      ()).result.toOption.isSome = true := by
    decide +kernel
  have hobjects : record.filterMap Asking.object? = [⟨"b1"⟩] := by decide +kernel
  cases hresult : (liveTags history .inOrder settings [master, master] ()).result with
  | error failure =>
      rw [hresult] at hlive
      cases hlive
  | ok tags =>
      obtain ⟨hroots, -, hnamed⟩ := hvisits.of_ok tags hresult
      refine ⟨⟨tags, rfl⟩, hroots, by decide +kernel, hobjects, (hnamed ⟨"b1"⟩).mp ?_⟩
      show (⟨"b1"⟩ : ObjectId) ∈ record.filterMap Asking.object?
      rw [hobjects]
      exact List.mem_singleton_self _

end ImageRetention
