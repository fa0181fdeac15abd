import Mathlib.Tactic
import ImageRetention.History.Memory
import ImageRetention.Proofs.History.Listing
import ImageRetention.Proofs.LiveSet.Course

/-!
The meaning of the live tags, in terms of what a history answers.

* `History.Gives`: a history whose answers depend on nothing but the question;
* `Answers.Selects`, `Answers.Tracks`, `Answers.Refers`: what the answers say about commits,
  revisions and references;
* `Answers.Readable`, `Answers.Complete`, `Answers.Fault`: the answers name all that is asked for,
  or leave nothing open at all, or something that is wrong with them;
* `liveTags_result`: the live tags are known just if the answers are complete, and are those
  of the references in the answers; otherwise the failure is a fault of the answers.
-/

namespace ImageRetention

/-! ### Answers -/

namespace History.Answers

/-- The answers say that some root filter selects a commit. -/
def Selects (answers : Answers) (roots : List RootFilter) (commit : CommitId) : Prop :=
  ∃ root ∈ roots, ∃ output, answers.commits root = .ok output ∧
    ∃ line ∈ Text.lines output.toList, CommitList.Names line commit

/-- The answers say that a revision is at a path in a selected commit. -/
def Tracks (answers : Answers) (path : String) (roots : List RootFilter) (object : ObjectId) :
    Prop :=
  ∃ commit, answers.Selects roots commit ∧ ∃ listing, answers.tree commit path = .ok listing ∧
    ∃ line ∈ Text.lines listing.toList, TreeListing.Names line object

/-- The answers say that a reference is in a revision at a path in a selected commit. -/
def Refers (answers : Answers) (path : String) (roots : List RootFilter)
    (reference : ImageReference) : Prop :=
  ∃ object, answers.Tracks path roots object ∧ ∃ bytes, answers.content object = .ok bytes ∧
    reference ∈ Image.scan bytes

/-- The answers name all commits, revisions and references that are asked for. -/
structure Readable (answers : Answers) (path : String) (roots : List RootFilter) : Prop where
  commits : ∀ root ∈ roots, ∃ output, answers.commits root = .ok output
  trees : ∀ commit, answers.Selects roots commit →
    ∃ listing, answers.tree commit path = .ok listing ∧
      ∀ line ∈ Text.lines listing.toList, 3 ≤ (Text.fields line).length
  contents : ∀ object, answers.Tracks path roots object →
    ∃ bytes, answers.content object = .ok bytes

/-- The answers leave nothing open: they are readable, and each reference that starts like those
to the repository has a tag. -/
structure Complete (answers : Answers) (settings : Settings) (roots : List RootFilter) : Prop
    extends Readable answers settings.trackedPath roots where
  references : ∀ reference, answers.Refers settings.trackedPath roots reference →
    settings.target.Precedes reference → ∃ tag, reference.Names tag ∧ tag.text ≠ ""

/-- What can be wrong with the answers, as it is worded. -/
inductive Fault (answers : Answers) (settings : Settings) (roots : List RootFilter) :
    Failure → Prop
  /-- The commits of a root filter are not known. -/
  | commits {root : RootFilter} {failure : Failure} (hroot : root ∈ roots)
      (hanswer : answers.commits root = .error failure) :
      Fault answers settings roots
        (failure.within ("Resolving commits for root '" ++ root.text ++ "'"))
  /-- The tree of a selected commit is not known. -/
  | tree {commit : CommitId} {failure : Failure} (hcommit : answers.Selects roots commit)
      (hanswer : answers.tree commit settings.trackedPath = .error failure) :
      Fault answers settings roots
        (failure.within
          ("Locating '" ++ settings.trackedPath ++ "' at commit " ++ commit.text))
  /-- The tree of a selected commit has a line that is too short. -/
  | line {commit : CommitId} {listing : String} {line : List Char}
      (hcommit : answers.Selects roots commit)
      (hanswer : answers.tree commit settings.trackedPath = .ok listing)
      (hline : line ∈ Text.lines listing.toList) (hshort : (Text.fields line).length < 3) :
      Fault answers settings roots (.of (.badTreeLine (String.ofList line)))
  /-- The content of a tracked revision is not known. -/
  | content {object : ObjectId} {failure : Failure}
      (hobject : answers.Tracks settings.trackedPath roots object)
      (hanswer : answers.content object = .error failure) :
      Fault answers settings roots
        (failure.within ("Reading content object " ++ object.text))
  /-- A reference to the repository has no tag. -/
  | reference {reference : ImageReference}
      (hreference : answers.Refers settings.trackedPath roots reference)
      (hprecedes : settings.target.Precedes reference)
      (hnone : ¬∃ tag, reference.Names tag ∧ tag.text ≠ "") :
      Fault answers settings roots (.of (.malformedReference reference.text))

/-- Complete answers have no fault. -/
lemma Complete.not_fault {answers : Answers} {settings : Settings} {roots : List RootFilter}
    (h : answers.Complete settings roots) {failure : Failure} :
    ¬answers.Fault settings roots failure := by
  rintro (⟨hroot, hanswer⟩ | ⟨hcommit, hanswer⟩ | ⟨hcommit, hanswer, hline, hshort⟩ |
    ⟨hobject, hanswer⟩ | ⟨hreference, hprecedes, hnone⟩)
  · obtain ⟨output, hok⟩ := h.commits _ hroot
    simp [hok] at hanswer
  · obtain ⟨listing, hok, -⟩ := h.trees _ hcommit
    simp [hok] at hanswer
  · obtain ⟨listing, hok, hlong⟩ := h.trees _ hcommit
    obtain rfl : listing = _ := by simpa [hok] using hanswer
    exact absurd (hlong _ hline) (by omega)
  · obtain ⟨bytes, hok⟩ := h.contents _ hobject
    simp [hok] at hanswer
  · exact hnone (h.references _ hreference hprecedes)

/-- A question with the answer that is given to it. -/
def reply (answers : Answers) : Query → Asking
  | .commits root => .commits root (answers.commits root)
  | .tree commit path => .tree commit path (answers.tree commit path)
  | .content object => .content object (answers.content object)

/-- All questions of a record got the answers that are given to them. -/
def Back (answers : Answers) (record : List Asking) : Prop :=
  ∀ asking ∈ record, asking = answers.reply asking.query

lemma back_append {answers : Answers} {record more : List Asking} :
    answers.Back (record ++ more) ↔ answers.Back record ∧ answers.Back more :=
  List.forall_mem_append

lemma Back.reply_mem {answers : Answers} {record : List Asking} (h : answers.Back record)
    {query : Query} (hquery : query ∈ record.map Asking.query) :
    answers.reply query ∈ record := by
  obtain ⟨asking, hasking, rfl⟩ := List.mem_map.mp hquery
  exact h asking hasking ▸ hasking

/-- The observer who writes down questions with the answers that are given to them. -/
def observer (σ : Type) (answers : Answers) : Observer σ Asking where
  Fits _ _ _ record := answers.Back record
  nil := by simp [Back]
  append := fun hfirst hsecond => back_append.mpr ⟨hfirst, hsecond⟩
  logged := by simp [Back]

end History.Answers

/-- The answers of a history depend on nothing but the question. -/
structure History.Gives {σ : Type} (history : History σ) (answers : History.Answers) :
    Prop where
  commits : ∀ root state, (history.commits root state).result = answers.commits root
  tree : ∀ commit path state, (history.tree commit path state).result = answers.tree commit path
  content : ∀ object state, (history.content object state).result = answers.content object

lemma History.Answers.gives {σ : Type} (answers : History.Answers) :
    (answers.history : History σ).Gives answers :=
  ⟨fun _ _ => rfl, fun _ _ _ => rfl, fun _ _ => rfl⟩

/-- A run after an event has the result of that run. -/
lemma result_emit_bind {σ α : Type} (event : Event) (run : Run σ α) (state : σ) :
    ((Run.emit event >>= fun _ => run) state).result = (run state).result := by
  rw [Run.bind_ok (Run.emit_apply event state)]

lemma History.Gives.hears {σ : Type} {history : History σ} {answers : History.Answers}
    (h : history.Gives answers) : (answers.observer σ).Hears history := by
  refine ⟨fun root state => ⟨_, ?_, rfl⟩, fun commit path state => ⟨_, ?_, rfl⟩,
    fun object state => ⟨_, ?_, rfl⟩⟩
  · have hresult : (history.askCommits root state).result = answers.commits root :=
      (result_emit_bind _ _ state).trans (h.commits root state)
    simp [History.Answers.observer, History.Answers.Back, History.Answers.reply, Asking.query,
      hresult]
  · have hresult : (history.askTree commit path state).result = answers.tree commit path :=
      (result_emit_bind _ _ state).trans (h.tree commit path state)
    simp [History.Answers.observer, History.Answers.Back, History.Answers.reply, Asking.query,
      hresult]
  · have hresult : (history.askContent object state).result = answers.content object :=
      (result_emit_bind _ _ state).trans (h.content object state)
    simp [History.Answers.observer, History.Answers.Back, History.Answers.reply, Asking.query,
      hresult]

namespace LiveSet

open History (Answers)

variable {answers : Answers} {path : String} {roots : List RootFilter}
  {commits trees contents : List Asking}

/-! ### What is taken from answers -/

lemma selected_reply_eq_ok {root : RootFilter} {found : List CommitId} :
    (answers.reply (.commits root)).selected = .ok found ↔
      ∃ output, answers.commits root = .ok output ∧ CommitList.commits output = found :=
  Asking.selected_eq_ok

lemma found_reply_eq_ok {object : ObjectId} {found : List ImageReference} :
    (answers.reply (.content object)).found = .ok found ↔
      ∃ bytes, answers.content object = .ok bytes ∧ (Image.scan bytes).toList = found :=
  Asking.found_eq_ok

lemma located_reply_eq_ok {commit : CommitId} {found : List ObjectId} :
    (answers.reply (.tree commit path)).located = .ok found ↔
      ∃ listing, answers.tree commit path = .ok listing ∧
        TreeListing.objects listing = .ok found :=
  Asking.located_eq_ok

lemma located_reply_eq_error {commit : CommitId} {failure : Failure} :
    (answers.reply (.tree commit path)).located = .error failure ↔
      (∃ inner, answers.tree commit path = .error inner ∧
        inner.within ("Locating '" ++ path ++ "' at commit " ++ commit.text) = failure) ∨
      ∃ listing cause, answers.tree commit path = .ok listing ∧
        TreeListing.objects listing = .error cause ∧ .of cause = failure :=
  Asking.located_eq_error

/-! ### What the stages find -/

lemma Stages.exists_root (h : Stages path roots commits trees contents)
    (hback : answers.Back commits) {asking : Asking} (hasking : asking ∈ commits) :
    ∃ root ∈ roots, answers.reply (.commits root) = asking := by
  have hquery := h.commits_asked.subset (List.mem_map_of_mem hasking)
  obtain ⟨root, hroot, hEq⟩ := List.mem_map.mp hquery
  exact ⟨root, hroot, by rw [hEq, ← hback asking hasking]⟩

lemma Stages.selects (h : Stages path roots commits trees contents)
    (hback : answers.Back commits) {commit : CommitId}
    (hcommit : Yields (commits.map Asking.selected) commit) : answers.Selects roots commit := by
  obtain ⟨found, hfound, hmem⟩ := hcommit
  obtain ⟨asking, hasking, hselected⟩ := List.mem_map.mp hfound
  obtain ⟨root, hroot, rfl⟩ := h.exists_root hback hasking
  obtain ⟨output, houtput, rfl⟩ := selected_reply_eq_ok.mp hselected
  exact ⟨root, hroot, output, houtput, CommitList.mem_commits_iff.mp hmem⟩

lemma Resolved.yields (h : Resolved roots commits) (hback : answers.Back commits)
    {commit : CommitId} (hcommit : answers.Selects roots commit) :
    Yields (commits.map Asking.selected) commit := by
  obtain ⟨root, hroot, output, houtput, hline⟩ := hcommit
  have hquery : .commits root ∈ commits.map Asking.query := by
    rw [h.asked]
    exact List.mem_map_of_mem hroot
  exact ⟨CommitList.commits output, List.mem_map.mpr ⟨_, hback.reply_mem hquery,
    selected_reply_eq_ok.mpr ⟨output, houtput, rfl⟩⟩, CommitList.mem_commits_iff.mpr hline⟩

lemma Stages.exists_commit (h : Stages path roots commits trees contents)
    (hcommits : answers.Back commits) (htrees : answers.Back trees) {asking : Asking}
    (hasking : asking ∈ trees) :
    ∃ commit, answers.Selects roots commit ∧ answers.reply (.tree commit path) = asking := by
  obtain ⟨commit, hquery, hcommit⟩ := h.trees_asked asking hasking
  exact ⟨commit, h.selects hcommits hcommit, by rw [← hquery, ← htrees asking hasking]⟩

lemma Stages.tracks (h : Stages path roots commits trees contents)
    (hcommits : answers.Back commits) (htrees : answers.Back trees) {object : ObjectId}
    (hobject : Yields (trees.map Asking.located) object) : answers.Tracks path roots object := by
  obtain ⟨found, hfound, hmem⟩ := hobject
  obtain ⟨asking, hasking, hlocated⟩ := List.mem_map.mp hfound
  obtain ⟨commit, hcommit, rfl⟩ := h.exists_commit hcommits htrees hasking
  obtain ⟨listing, hlisting, hobjects⟩ := located_reply_eq_ok.mp hlocated
  exact ⟨commit, hcommit, listing, hlisting,
    ((TreeListing.objectsOf_eq_ok hobjects).2 object).mp hmem⟩

lemma Located.exists_listing (h : Located path commits trees) (hback : answers.Back trees)
    {commit : CommitId} (hcommit : Yields (commits.map Asking.selected) commit) :
    ∃ listing found, answers.tree commit path = .ok listing ∧
      TreeListing.objects listing = .ok found ∧
      (answers.reply (.tree commit path)).located = .ok found ∧
      answers.reply (.tree commit path) ∈ trees := by
  have hmem := hback.reply_mem (h.asked commit hcommit)
  obtain ⟨found, hfound⟩ := h.answered _ (List.mem_map_of_mem hmem)
  obtain ⟨listing, hlisting, hobjects⟩ := located_reply_eq_ok.mp hfound
  exact ⟨listing, found, hlisting, hobjects, hfound, hmem⟩

lemma Located.yields (h : Located path commits trees) (hresolved : Resolved roots commits)
    (hcommits : answers.Back commits) (htrees : answers.Back trees) {object : ObjectId}
    (hobject : answers.Tracks path roots object) :
    Yields (trees.map Asking.located) object := by
  obtain ⟨commit, hcommit, listing, hlisting, hline⟩ := hobject
  obtain ⟨other, found, hother, hobjects, hlocated, hmem⟩ :=
    h.exists_listing htrees (hresolved.yields hcommits hcommit)
  obtain rfl : listing = other := by simpa [hlisting] using hother
  exact ⟨found, List.mem_map.mpr ⟨_, hmem, hlocated⟩,
    ((TreeListing.objectsOf_eq_ok hobjects).2 object).mpr hline⟩

lemma Stages.exists_object (h : Stages path roots commits trees contents)
    (hcommits : answers.Back commits) (htrees : answers.Back trees)
    (hcontents : answers.Back contents) {asking : Asking} (hasking : asking ∈ contents) :
    ∃ object, answers.Tracks path roots object ∧ answers.reply (.content object) = asking := by
  obtain ⟨object, hquery, hobject⟩ := h.contents_asked asking hasking
  exact ⟨object, h.tracks hcommits htrees hobject, by rw [← hquery, ← hcontents asking hasking]⟩

lemma Stages.refers (h : Stages path roots commits trees contents)
    (hcommits : answers.Back commits) (htrees : answers.Back trees)
    (hcontents : answers.Back contents) {reference : ImageReference}
    (hreference : Yields (contents.map Asking.found) reference) :
    answers.Refers path roots reference := by
  obtain ⟨found, hfound, hmem⟩ := hreference
  obtain ⟨asking, hasking, hscanned⟩ := List.mem_map.mp hfound
  obtain ⟨object, hobject, rfl⟩ := h.exists_object hcommits htrees hcontents hasking
  obtain ⟨bytes, hbytes, rfl⟩ := found_reply_eq_ok.mp hscanned
  exact ⟨object, hobject, bytes, hbytes, hmem⟩

lemma Extracted.exists_bytes (h : Extracted trees contents) (hback : answers.Back contents)
    {object : ObjectId} (hobject : Yields (trees.map Asking.located) object) :
    ∃ bytes, answers.content object = .ok bytes ∧
      (answers.reply (.content object)).found = .ok (Image.scan bytes).toList ∧
      answers.reply (.content object) ∈ contents := by
  have hmem := hback.reply_mem (h.asked object hobject)
  obtain ⟨found, hfound⟩ := h.answered _ (List.mem_map_of_mem hmem)
  obtain ⟨bytes, hbytes, rfl⟩ := found_reply_eq_ok.mp hfound
  exact ⟨bytes, hbytes, hfound, hmem⟩

lemma Extracted.yields (h : Extracted trees contents) (hlocated : Located path commits trees)
    (hresolved : Resolved roots commits) (hcommits : answers.Back commits)
    (htrees : answers.Back trees) (hcontents : answers.Back contents)
    {reference : ImageReference} (hreference : answers.Refers path roots reference) :
    Yields (contents.map Asking.found) reference := by
  obtain ⟨object, hobject, bytes, hbytes, hmem⟩ := hreference
  obtain ⟨others, hothers, hfound, hasked⟩ :=
    h.exists_bytes hcontents (hlocated.yields hresolved hcommits htrees hobject)
  obtain rfl : bytes = others := by simpa [hbytes] using hothers
  exact ⟨_, List.mem_map.mpr ⟨_, hasked, hfound⟩, hmem⟩

/-- If all stages are over then the answers are readable. -/
lemma Resolved.readable (h : Resolved roots commits) (hlocated : Located path commits trees)
    (hextracted : Extracted trees contents) (hcommits : answers.Back commits)
    (htrees : answers.Back trees) (hcontents : answers.Back contents) :
    answers.Readable path roots := by
  refine ⟨fun root hroot => ?_, fun commit hcommit => ?_, fun object hobject => ?_⟩
  · have hquery : .commits root ∈ commits.map Asking.query := by
      rw [h.asked]
      exact List.mem_map_of_mem hroot
    obtain ⟨found, hfound⟩ := h.answered _ (List.mem_map_of_mem (hcommits.reply_mem hquery))
    obtain ⟨output, houtput, -⟩ := selected_reply_eq_ok.mp hfound
    exact ⟨output, houtput⟩
  · obtain ⟨listing, found, hlisting, hobjects, -, -⟩ :=
      hlocated.exists_listing htrees (h.yields hcommits hcommit)
    exact ⟨listing, hlisting, (TreeListing.objectsOf_eq_ok hobjects).1⟩
  · obtain ⟨bytes, hbytes, -, -⟩ :=
      hextracted.exists_bytes hcontents (hlocated.yields h hcommits htrees hobject)
    exact ⟨bytes, hbytes⟩

/-! ### How a course ends -/

variable {settings : Settings} {tags : SortedSet ImageTag}

/-- If a resolution of live tags succeeds then the answers are complete. -/
lemma Course.complete (h : Course settings roots commits trees contents (.ok tags))
    (hcommits : answers.Back commits) (htrees : answers.Back trees)
    (hcontents : answers.Back contents) : answers.Complete settings roots := by
  obtain ⟨hresolved, hlocated, hextracted, hselected⟩ := h.of_ok tags rfl
  refine ⟨hresolved.readable hlocated hextracted hcommits htrees hcontents,
    fun reference hreference hprecedes => ?_⟩
  have hyields := hextracted.yields hlocated hresolved hcommits htrees hcontents hreference
  have hsound := hselected.none_malformed reference hyields
  rw [Ne, Target.judge_eq_malformed_iff, not_and, not_not] at hsound
  exact hsound hprecedes

/-- If a resolution of live tags succeeds then its tags are those of the references in the
answers that start like those to the repository. -/
lemma Course.mem_iff (h : Course settings roots commits trees contents (.ok tags))
    (hcommits : answers.Back commits) (htrees : answers.Back trees)
    (hcontents : answers.Back contents) (tag : ImageTag) :
    tag ∈ tags ↔ ∃ reference, answers.Refers settings.trackedPath roots reference ∧
      settings.target.Precedes reference ∧ reference.Names tag := by
  obtain ⟨hresolved, hlocated, hextracted, hselected⟩ := h.of_ok tags rfl
  rw [hselected.mem_iff_names]
  constructor
  · rintro ⟨reference, hyields, hnames⟩
    exact ⟨reference, h.refers hcommits htrees hcontents hyields, hnames⟩
  · rintro ⟨reference, hreference, hnames⟩
    exact ⟨reference, hextracted.yields hlocated hresolved hcommits htrees hcontents hreference,
      hnames⟩

/-- If a resolution of live tags fails then something is wrong with the answers. -/
lemma Course.fault {failure : Failure}
    (h : Course settings roots commits trees contents (.error failure))
    (hcommits : answers.Back commits) (htrees : answers.Back trees)
    (hcontents : answers.Back contents) : answers.Fault settings roots failure := by
  rcases h.of_error failure rfl with hfails | hfails | hfails | ⟨reference, hyields, hjudge, rfl⟩
  · obtain ⟨asking, hasking, hfails⟩ := List.mem_map.mp hfails
    obtain ⟨root, hroot, rfl⟩ := h.exists_root hcommits hasking
    obtain ⟨inner, hinner, rfl⟩ := map_mapError_eq_error.mp hfails
    exact .commits hroot hinner
  · obtain ⟨asking, hasking, hfails⟩ := List.mem_map.mp hfails
    obtain ⟨commit, hcommit, rfl⟩ := h.exists_commit hcommits htrees hasking
    obtain ⟨inner, hinner, rfl⟩ | ⟨listing, cause, hlisting, hcause, rfl⟩ :=
      located_reply_eq_error.mp hfails
    · exact .tree hcommit hinner
    · obtain ⟨line, hline, hshort, rfl⟩ := TreeListing.objectsOf_eq_error hcause
      exact .line hcommit hlisting hline hshort
  · obtain ⟨asking, hasking, hfails⟩ := List.mem_map.mp hfails
    obtain ⟨object, hobject, rfl⟩ := h.exists_object hcommits htrees hcontents hasking
    obtain ⟨inner, hinner, rfl⟩ := map_mapError_eq_error.mp hfails
    exact .content hobject hinner
  · obtain ⟨hprecedes, hnone⟩ := Target.judge_eq_malformed_iff.mp hjudge
    exact .reference (h.refers hcommits htrees hcontents hyields) hprecedes hnone

/-- Every resolution of live tags takes a course in which all questions get the answers that
a history gives. -/
lemma exists_course {σ : Type} {history : History σ} (h : history.Gives answers)
    (schedules : Schedules) (settings : Settings) (roots : List RootFilter) (state : σ) :
    ∃ commits trees contents, answers.Back commits ∧ answers.Back trees ∧
      answers.Back contents ∧ Course settings roots commits trees contents
        (liveTags history schedules settings roots state).result := by
  obtain ⟨record, hback, commits, trees, contents, rfl, hcourse⟩ :=
    shows_liveTags h.hears schedules settings roots state
  obtain ⟨hcommits, hrest⟩ := History.Answers.back_append.mp hback
  obtain ⟨htrees, hcontents⟩ := History.Answers.back_append.mp hrest
  exact ⟨commits, trees, contents, hcommits, htrees, hcontents, hcourse⟩

end LiveSet

/-! ### The meaning of the live tags -/

/-- The live tags are known just if the answers of the history leave nothing open.  They are
then the tags of all references in the answers that start like those to the repository, and
no others.  Otherwise the failure is a fault of the answers.  All this holds whenever the
answers arrive, and however many questions may be open at a time. -/
theorem liveTags_result {σ : Type} {history : History σ} {answers : History.Answers}
    (h : history.Gives answers) (schedules : Schedules) (settings : Settings)
    (roots : List RootFilter) (state : σ) :
    ((∃ tags, (liveTags history schedules settings roots state).result = .ok tags) ↔
      answers.Complete settings roots) ∧
    (∀ tags, (liveTags history schedules settings roots state).result = .ok tags →
      ∀ tag, tag ∈ tags ↔ ∃ reference, answers.Refers settings.trackedPath roots reference ∧
        settings.target.Precedes reference ∧ reference.Names tag) ∧
    ∀ failure, (liveTags history schedules settings roots state).result = .error failure →
      answers.Fault settings roots failure := by
  obtain ⟨commits, trees, contents, hcommits, htrees, hcontents, hcourse⟩ :=
    LiveSet.exists_course h schedules settings roots state
  cases hresult : (liveTags history schedules settings roots state).result with
  | error failure =>
      rw [hresult] at hcourse
      have hfault := hcourse.fault hcommits htrees hcontents
      refine ⟨⟨?_, fun hcomplete => absurd hfault hcomplete.not_fault⟩, ?_, ?_⟩
      · rintro ⟨tags, ⟨⟩⟩
      · rintro tags ⟨⟩
      · rintro other ⟨⟩
        exact hfault
  | ok tags =>
      rw [hresult] at hcourse
      refine ⟨⟨fun _ => hcourse.complete hcommits htrees hcontents, fun _ => ⟨tags, rfl⟩⟩, ?_, ?_⟩
      · rintro other ⟨⟩ tag
        exact hcourse.mem_iff hcommits htrees hcontents tag
      · rintro failure ⟨⟩

/-- The answers of a history in which one commit names one image of the repository are
complete, and its tag is live. -/
theorem liveTags_result_memory :
    let memory := (({} : History.Memory).withRoot ["master"] ["c1"]).withBlob "c1" "b1"
      "CI_BUILD_CONTAINER=bondciimages.azurecr.io/ubuntu-1604:v1\n"
    let settings := Settings.standard 10
    let roots : List RootFilter := [⟨["master"]⟩]
    (memory.answers.history : History Unit).Gives memory.answers ∧
      memory.answers.Complete settings roots ∧
      ∃ reference, memory.answers.Refers settings.trackedPath roots reference ∧
        settings.target.Precedes reference ∧ reference.Names ⟨"v1"⟩ := by
  intro memory settings roots
  have hgives : (memory.answers.history : History Unit).Gives memory.answers :=
    memory.answers.gives
  obtain ⟨hcomplete, hmem, -⟩ := liveTags_result hgives .inOrder settings roots ()
  have hlive : (liveTags (σ := Unit) memory.answers.history .inOrder settings roots
      ()).result.toOption.any (·.contains ⟨"v1"⟩) = true := by
    decide +kernel
  cases hresult : (liveTags (σ := Unit) memory.answers.history .inOrder settings roots
      ()).result with
  | error failure => simp [hresult, Except.toOption] at hlive
  | ok tags =>
      have htag : (⟨"v1"⟩ : ImageTag) ∈ tags := by
        simpa [hresult, Except.toOption] using hlive
      exact ⟨hgives, hcomplete.mp ⟨tags, hresult⟩, (hmem tags hresult ⟨"v1"⟩).mp htag⟩

end ImageRetention
