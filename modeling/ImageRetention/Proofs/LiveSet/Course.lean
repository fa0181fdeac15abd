import Mathlib.Tactic
import ImageRetention.LiveSet
import ImageRetention.Proofs.History.Asking
import ImageRetention.Proofs.Image.Selection
import ImageRetention.Proofs.LiveSet.Pool

/-!
The course of a resolution of live tags: which questions are asked, in which order, and what
follows from their answers.

* `Gathering`, `shows_gathering`: what questions asked side by side leave behind, for every
  schedule and limit;
* `shows_resolve`, `shows_locate`, `shows_extract`, `shows_select`: one statement for each
  stage, for every history;
* `ImageCourse`, `Course`: the questions of the three stages that ask, and the result;
* `shows_liveImages`, `shows_liveTags`: every resolution of live images and of live tags takes
  such a course.

Nothing is said about where answers come from, so the same course holds for a history that is
made up and for one that runs programs.
-/

namespace ImageRetention.LiveSet

open Observer (shows_pure shows_log shows_emitEach shows_ofExcept ignores_logged Sequenced)
open Pool (Settled)

variable {σ : Type} {observer : Observer σ Asking} {history : History σ}

lemma noneFails_dropLast_cons {α β : Type} {f : α → Except Failure (List β)} {a : α}
    {rest : List α} (h : ∃ found, f a = .ok found) (hrest : NoneFails (rest.dropLast.map f)) :
    NoneFails ((a :: rest).dropLast.map f) := by
  rw [NoneFails, List.forall_mem_map] at hrest ⊢
  exact Observer.forall_mem_dropLast_cons h hrest

/-! ### Commits -/

/-- What asking for the commits of some root filters leaves behind: the filters are asked
about in their order, and none after the first failure. -/
structure Resolving (roots : List RootFilter) (known : SortedSet CommitId)
    (record : List Asking) (result : Except Failure (SortedSet CommitId)) : Prop where
  asked : record.map Asking.query <+: roots.map Query.commits
  all : ∀ commits, result = .ok commits → record.map Asking.query = roots.map Query.commits
  stops : NoneFails (record.dropLast.map Asking.selected)
  settled : Settled known (record.map Asking.selected) result

lemma shows_resolveFrom (h : observer.Hears history) (roots : List RootFilter)
    (known : SortedSet CommitId) :
    observer.Shows (resolveFrom history known roots) (Resolving roots known) := by
  induction roots generalizing known with
  | nil =>
      refine (shows_pure known).mono ?_
      rintro record result ⟨rfl, rfl⟩
      refine ⟨by simp, by simp, by simp [NoneFails], ?_, by simp⟩
      rintro set ⟨⟩
      simp [NoneFails, Yields]
  | cons root rest ih =>
      rw [resolveFrom]
      refine (shows_log _ _ _).after_silent ?_
      refine (((h.commits root).within _).bind fun output =>
        (shows_log _ _ _).after_silent (ih (known.insertAll (CommitList.commits output)))).mono ?_
      rintro record result (⟨failure, ⟨answer, rfl, hanswer⟩, rfl⟩ |
        ⟨output, before, after, rfl, ⟨answer, rfl, hanswer⟩, hrest⟩)
      · have hfails : (Asking.commits root answer).selected = .error failure := by
          simp [Asking.selected, ← hanswer, Except.map]
        refine ⟨by simp [Asking.query], by simp, by simp [NoneFails], by simp, ?_⟩
        rintro _ ⟨⟩
        simp [hfails]
      · have hgives : (Asking.commits root answer).selected =
            .ok (CommitList.commits output) := by
          simp [Asking.selected, ← hanswer, Except.map]
        refine ⟨?_, fun commits hcommits => ?_, ?_, ?_⟩
        · simpa [Asking.query] using hrest.asked
        · simpa [Asking.query] using hrest.all commits hcommits
        · exact noneFails_dropLast_cons ⟨_, hgives⟩ hrest.stops
        · simpa [hgives] using hrest.settled.of_insertAll

lemma shows_resolve (h : observer.Hears history) (roots : List RootFilter) :
    observer.Shows (resolve history roots) (Resolving roots .empty) :=
  shows_resolveFrom h roots .empty

/-! ### Questions side by side -/

/-- What asking about some items side by side leaves behind: no item is asked about twice, and
all of them are asked about if there is a result. -/
structure Gathering {α β : Type} [Labelled β] (question : α → Query)
    (take : Asking → Except Failure (List β)) (items : List α) (record : List Asking)
    (result : Except Failure (SortedSet β)) : Prop where
  asked : (record.map Asking.query).Subperm (items.map question)
  all : ∀ set, result = .ok set → (record.map Asking.query).Perm (items.map question)
  settled : Settled .empty (record.map take) result

section Gathering

variable {α β : Type} [Labelled β] {question : α → Query}
  {take : Asking → Except Failure (List β)}

/-- A pool of questions, and a log entry after it. -/
lemma shows_gathering {ask : α → Run σ (List β)}
    (hask : ∀ item, observer.Shows (ask item) fun record result =>
      ∃ asking, record = [asking] ∧ asking.query = question item ∧ result = take asking)
    (limit : Nat) (schedule : Schedule) (items : List α) (level : Log.Level)
    (source : Log.Source) (message : SortedSet β → String) :
    observer.Shows (Pool.gather limit schedule ask items >>= fun set =>
      Run.log level source (message set) >>= fun _ => pure set)
      (Gathering question take items) := by
  refine ((Pool.shows_gather hask limit schedule items).bind fun set =>
    (shows_log _ _ _).after_silent (shows_pure set)).mono ?_
  rintro record result (⟨failure, ⟨hasked, hall, hsettled⟩, rfl⟩ |
    ⟨set, before, after, rfl, ⟨hasked, hall, hsettled⟩, rfl, rfl⟩)
  · exact ⟨hasked, by simp, ⟨by simp, hsettled.of_error⟩⟩
  · rw [List.append_nil]
    exact ⟨hasked, hall, hsettled⟩

variable {items : List α} {record : List Asking} {set : SortedSet β}

lemma Gathering.mem_iff (h : Gathering question take items record (.ok set)) (b : β) :
    b ∈ set ↔ Yields (record.map take) b := by
  simpa using (h.settled.of_ok set rfl).2 b

/-- If there is a result then every item was asked about, and every question has an answer. -/
lemma Gathering.completed (h : Gathering question take items record (.ok set)) :
    (∀ item ∈ items, question item ∈ record.map Asking.query) ∧ NoneFails (record.map take) := by
  refine ⟨fun item hitem => ?_, (h.settled.of_ok set rfl).1⟩
  exact (h.all set rfl).mem_iff.mpr (List.mem_map_of_mem hitem)

/-- Every question is about one of the items. -/
lemma Gathering.exists_item {result : Except Failure (SortedSet β)}
    (h : Gathering question take items record result) {asking : Asking}
    (hasking : asking ∈ record) : ∃ item ∈ items, asking.query = question item := by
  have hquery := h.asked.subset (List.mem_map_of_mem hasking)
  obtain ⟨item, hitem, hEq⟩ := List.mem_map.mp hquery
  exact ⟨item, hitem, hEq.symm⟩

lemma nodup_toList (s : SortedSet β) : s.toList.Nodup := by
  refine s.ascending.imp ?_
  rintro a b hlt rfl
  exact String.lt_irrefl _ hlt

/-- No question is asked twice about the members of a set. -/
lemma Gathering.nodup {s : SortedSet β} {question : β → Query} {γ : Type} [Labelled γ]
    {take : Asking → Except Failure (List γ)} {result : Except Failure (SortedSet γ)}
    (hinjective : Function.Injective question)
    (h : Gathering question take s.toList record result) : (record.map Asking.query).Nodup := by
  obtain ⟨others, hperm, hsublist⟩ := h.asked
  exact (((nodup_toList s).map hinjective).sublist hsublist).perm hperm

end Gathering

/-! ### Revisions of the tracked file -/

lemma shows_locateAt (h : observer.Hears history) (path : String) (commit : CommitId) :
    observer.Shows (locateAt history path commit) fun record result =>
      ∃ asking, record = [asking] ∧ asking.query = .tree commit path ∧
        result = asking.located := by
  refine (((h.tree commit path).within _).bind fun listing =>
    (shows_emitEach fun line _ => ignores_logged _).after_silent (shows_ofExcept _)).mono ?_
  rintro record result (⟨failure, ⟨answer, rfl, hanswer⟩, rfl⟩ |
    ⟨listing, before, after, rfl, ⟨answer, rfl, hanswer⟩, rfl, rfl⟩)
  · exact ⟨_, rfl, rfl, by simp [Asking.located, ← hanswer, Except.bind]⟩
  · exact ⟨_, rfl, rfl, by simp [Asking.located, ← hanswer, Except.bind]⟩

/-- What looking for a path at some commits leaves behind. -/
abbrev Locating (path : String) (commits : SortedSet CommitId) :
    List Asking → Except Failure (SortedSet ObjectId) → Prop :=
  Gathering (.tree · path) Asking.located commits.toList

lemma shows_locate (h : observer.Hears history) (schedule : Schedule) (limit : Nat)
    (path : String) (commits : SortedSet CommitId) :
    observer.Shows (locate history schedule limit path commits) (Locating path commits) :=
  shows_gathering (shows_locateAt h path) limit schedule commits.toList _ _ _

/-! ### References -/

lemma shows_extractFrom (h : observer.Hears history) (object : ObjectId) :
    observer.Shows (extractFrom history object) fun record result =>
      ∃ asking, record = [asking] ∧ asking.query = .content object ∧
        result = asking.found := by
  refine (((h.content object).within _).bind fun content =>
    (shows_log _ _ _).after_silent (shows_pure (Image.scan content).toList)).mono ?_
  rintro record result (⟨failure, ⟨answer, rfl, hanswer⟩, rfl⟩ |
    ⟨content, before, after, rfl, ⟨answer, rfl, hanswer⟩, rfl, rfl⟩)
  · exact ⟨_, rfl, rfl, by simp [Asking.found, ← hanswer, Except.map]⟩
  · exact ⟨_, rfl, rfl, by simp [Asking.found, ← hanswer, Except.map]⟩

/-- What reading some revisions leaves behind. -/
abbrev Extracting (objects : SortedSet ObjectId) :
    List Asking → Except Failure (SortedSet ImageReference) → Prop :=
  Gathering .content Asking.found objects.toList

lemma shows_extract (h : observer.Hears history) (schedule : Schedule) (limit : Nat)
    (objects : SortedSet ObjectId) :
    observer.Shows (extract history schedule limit objects.toList) (Extracting objects) :=
  shows_gathering (shows_extractFrom h) limit schedule objects.toList _ _ _

/-! ### Tags -/

lemma shows_select (target : Target) (references : SortedSet ImageReference) :
    observer.Shows (select target references : Run σ _) fun record result =>
      record = [] ∧ (∀ tags, result = .ok tags →
        (∀ reference ∈ references, target.judge reference ≠ .malformed) ∧
        ∀ tag, tag ∈ tags ↔ ∃ reference ∈ references, target.judge reference = .live tag) ∧
      ∀ failure, result = .error failure →
        ∃ reference ∈ references, target.judge reference = .malformed ∧
          failure = .of (.malformedReference reference.text) := by
  refine ((shows_emitEach fun reference _ => ignores_logged _).after_silent
    ((shows_ofExcept (target.tagsOf references.toList)).bind fun tags =>
      shows_pure (SortedSet.ofList tags))).mono ?_
  rintro record result (⟨failure, ⟨rfl, htags⟩, rfl⟩ |
    ⟨tags, before, after, rfl, ⟨rfl, htags⟩, rfl, rfl⟩)
  · refine ⟨rfl, by simp, ?_⟩
    rintro _ ⟨⟩
    obtain ⟨cause, hcause, rfl⟩ := mapError_eq_error.mp htags.symm
    obtain ⟨reference, hmem, hjudge, rfl⟩ := Target.tagsOf_eq_error hcause
    exact ⟨reference, hmem, hjudge, rfl⟩
  · refine ⟨rfl, ?_, by simp⟩
    rintro _ ⟨⟩
    obtain ⟨hnone, hmem⟩ := Target.tagsOf_eq_ok (mapError_eq_ok.mp htags.symm)
    exact ⟨hnone, fun tag => SortedSet.mem_ofList.trans (hmem tag)⟩

/-! ### The stages -/

/-- The first stage is over: all filters were asked about, and all questions answered. -/
structure Resolved (roots : List RootFilter) (commits : List Asking) : Prop where
  asked : commits.map Asking.query = roots.map Query.commits
  answered : NoneFails (commits.map Asking.selected)

/-- The second stage is over: a path was looked for in all selected commits, and all
questions answered. -/
structure Located (path : String) (commits trees : List Asking) : Prop where
  asked : ∀ commit, Yields (commits.map Asking.selected) commit →
    .tree commit path ∈ trees.map Asking.query
  answered : NoneFails (trees.map Asking.located)

/-- The third stage is over: all revisions that were found were read. -/
structure Extracted (trees contents : List Asking) : Prop where
  asked : ∀ object, Yields (trees.map Asking.located) object →
    .content object ∈ contents.map Asking.query
  answered : NoneFails (contents.map Asking.found)

/-- Some tags are those of the references that were read. -/
structure Selected (target : Target) (contents : List Asking) (tags : SortedSet ImageTag) :
    Prop where
  none_malformed : ∀ reference, Yields (contents.map Asking.found) reference →
    target.judge reference ≠ .malformed
  mem_iff : ∀ tag, tag ∈ tags ↔
    ∃ reference, Yields (contents.map Asking.found) reference ∧
      target.judge reference = .live tag

/-- The tags are those of all references that start like those to the repository: none of them
is malformed, so what follows the colon is a tag. -/
lemma Selected.mem_iff_names {target : Target} {contents : List Asking}
    {tags : SortedSet ImageTag} (h : Selected target contents tags) (tag : ImageTag) :
    tag ∈ tags ↔ ∃ reference, Yields (contents.map Asking.found) reference ∧
      target.Precedes reference ∧ reference.Names tag := by
  rw [h.mem_iff]
  exact exists_congr fun reference => and_congr_right fun hyields =>
    Target.judge_eq_live_iff_names (h.none_malformed reference hyields)

/-- No tag is empty. -/
lemma Selected.text_ne_empty {target : Target} {contents : List Asking}
    {tags : SortedSet ImageTag} (h : Selected target contents tags) {tag : ImageTag}
    (htag : tag ∈ tags) : tag.text ≠ "" := by
  obtain ⟨reference, -, hlive⟩ := (h.mem_iff tag).mp htag
  exact (Target.judge_eq_live_iff.mp hlive).2.2

/-- The questions of a resolution of live images.  A stage is entered only after the one
before is over. -/
structure Stages (path : String) (roots : List RootFilter)
    (commits trees contents : List Asking) : Prop where
  /-- The filters are asked about in their order. -/
  commits_asked : commits.map Asking.query <+: roots.map Query.commits
  /-- Nothing is asked after a filter that has no answer. -/
  commits_stop : NoneFails (commits.dropLast.map Asking.selected)
  /-- The path is looked for in selected commits only. -/
  trees_asked : ∀ asking ∈ trees, ∃ commit,
    asking.query = .tree commit path ∧ Yields (commits.map Asking.selected) commit
  /-- No commit is looked into twice. -/
  trees_once : (trees.map Asking.query).Nodup
  /-- Only revisions that were found are read. -/
  contents_asked : ∀ asking ∈ contents, ∃ object,
    asking.query = .content object ∧ Yields (trees.map Asking.located) object
  /-- No revision is read twice. -/
  contents_once : (contents.map Asking.query).Nodup
  trees_after : trees ≠ [] → Resolved roots commits
  contents_after : contents ≠ [] → Located path commits trees

lemma Resolving.resolved {roots : List RootFilter} {commits : List Asking}
    {set : SortedSet CommitId} (h : Resolving roots .empty commits (.ok set)) :
    Resolved roots commits :=
  ⟨h.all set rfl, (h.settled.of_ok set rfl).1⟩

lemma Resolving.mem_iff {roots : List RootFilter} {commits : List Asking}
    {set : SortedSet CommitId} (h : Resolving roots .empty commits (.ok set))
    (commit : CommitId) : commit ∈ set ↔ Yields (commits.map Asking.selected) commit := by
  simpa using (h.settled.of_ok set rfl).2 commit

lemma Locating.located {path : String} {roots : List RootFilter} {commits trees : List Asking}
    {set : SortedSet CommitId} {objects : SortedSet ObjectId}
    (hresolving : Resolving roots .empty commits (.ok set))
    (h : Locating path set trees (.ok objects)) : Located path commits trees := by
  obtain ⟨hasked, hanswered⟩ := h.completed
  exact ⟨fun commit hcommit => hasked commit ((hresolving.mem_iff commit).mpr hcommit), hanswered⟩

lemma Extracting.extracted {path : String} {set : SortedSet CommitId}
    {trees contents : List Asking} {objects : SortedSet ObjectId}
    {references : SortedSet ImageReference} (hlocating : Locating path set trees (.ok objects))
    (h : Extracting objects contents (.ok references)) : Extracted trees contents := by
  obtain ⟨hasked, hanswered⟩ := h.completed
  exact ⟨fun object hobject => hasked object ((hlocating.mem_iff object).mpr hobject), hanswered⟩

lemma Resolving.stages {path : String} {roots : List RootFilter} {commits : List Asking}
    {result : Except Failure (SortedSet CommitId)}
    (h : Resolving roots .empty commits result) : Stages path roots commits [] [] := by
  refine ⟨h.asked, h.stops, ?_, ?_, ?_, ?_, ?_, ?_⟩ <;> simp

lemma Locating.stages {path : String} {roots : List RootFilter} {commits trees : List Asking}
    {set : SortedSet CommitId} {result : Except Failure (SortedSet ObjectId)}
    (hresolving : Resolving roots .empty commits (.ok set))
    (h : Locating path set trees result) : Stages path roots commits trees [] := by
  refine ⟨hresolving.asked, hresolving.stops, fun asking hasking => ?_, ?_, by simp, by simp,
    fun _ => hresolving.resolved, by simp⟩
  · obtain ⟨commit, hcommit, hquery⟩ := h.exists_item hasking
    exact ⟨commit, hquery, (hresolving.mem_iff commit).mp hcommit⟩
  · exact Gathering.nodup (fun _ _ hEq => (Query.tree.inj hEq).1) h

lemma Extracting.stages {path : String} {roots : List RootFilter}
    {commits trees contents : List Asking} {set : SortedSet CommitId}
    {objects : SortedSet ObjectId} {result : Except Failure (SortedSet ImageReference)}
    (hresolving : Resolving roots .empty commits (.ok set))
    (hlocating : Locating path set trees (.ok objects))
    (h : Extracting objects contents result) : Stages path roots commits trees contents := by
  have hbefore := Locating.stages hresolving hlocating
  refine ⟨hbefore.commits_asked, hbefore.commits_stop, hbefore.trees_asked, hbefore.trees_once,
    fun asking hasking => ?_, ?_, hbefore.trees_after,
    fun _ => Locating.located hresolving hlocating⟩
  · obtain ⟨object, hobject, hquery⟩ := h.exists_item hasking
    exact ⟨object, hquery, (hlocating.mem_iff object).mp hobject⟩
  · exact Gathering.nodup (fun _ _ hEq => Query.content.inj hEq) h

/-! ### The whole -/

/-- The questions of a resolution of live images, and how it ends. -/
structure ImageCourse (path : String) (roots : List RootFilter)
    (commits trees contents : List Asking) (result : Except Failure (SortedSet ImageReference)) :
    Prop extends Stages path roots commits trees contents where
  /-- A result needs all stages. -/
  of_ok : ∀ references, result = .ok references →
    Resolved roots commits ∧ Located path commits trees ∧ Extracted trees contents ∧
      ∀ reference, reference ∈ references ↔ Yields (contents.map Asking.found) reference
  /-- A failure is that of a question. -/
  of_error : ∀ failure, result = .error failure →
    .error failure ∈ commits.map Asking.selected ∨ .error failure ∈ trees.map Asking.located ∨
      .error failure ∈ contents.map Asking.found

/-- Every resolution of live images goes through the stages, whatever is asked and whenever
answers arrive. -/
theorem shows_liveImages (h : observer.Hears history) (schedules : Schedules) (path : String)
    (limit : Nat) (roots : List RootFilter) :
    observer.Shows (liveImages history schedules path limit roots) fun record result =>
      ∃ commits trees contents, record = commits ++ (trees ++ contents) ∧
        ImageCourse path roots commits trees contents result := by
  refine ((shows_resolve h roots).bind fun found =>
    (shows_log _ _ _).after_silent
      ((shows_locate h schedules.listing limit path found).bind fun objects =>
        (shows_log _ _ _).after_silent
          (shows_extract h schedules.reading limit objects))).mono ?_
  rintro record result (⟨failure, hresolving, rfl⟩ |
    ⟨found, commits, _, rfl, hresolving, ⟨failure, hlocating, rfl⟩ |
      ⟨objects, trees, contents, rfl, hlocating, hextracting⟩⟩)
  · refine ⟨record, [], [], by simp, hresolving.stages, by simp, ?_⟩
    rintro _ ⟨⟩
    exact Or.inl (hresolving.settled.of_error failure rfl)
  · refine ⟨commits, _, [], by simp, Locating.stages hresolving hlocating, by simp, ?_⟩
    rintro _ ⟨⟩
    exact Or.inr (Or.inl (hlocating.settled.of_error failure rfl))
  · have hstages := Extracting.stages hresolving hlocating hextracting
    refine ⟨commits, trees, contents, rfl, hstages, ?_, fun failure hfailure => ?_⟩
    · rintro references rfl
      exact ⟨hresolving.resolved, Locating.located hresolving hlocating,
        Extracting.extracted hlocating hextracting, hextracting.mem_iff⟩
    · exact Or.inr (Or.inr (hextracting.settled.of_error failure hfailure))

/-- The questions of a resolution of live tags, and how it ends. -/
structure Course (settings : Settings) (roots : List RootFilter)
    (commits trees contents : List Asking) (result : Except Failure (SortedSet ImageTag)) :
    Prop extends Stages settings.trackedPath roots commits trees contents where
  /-- A result needs all stages. -/
  of_ok : ∀ tags, result = .ok tags →
    Resolved roots commits ∧ Located settings.trackedPath commits trees ∧
      Extracted trees contents ∧ Selected settings.target contents tags
  /-- A failure is that of a question, or of a reference that was read. -/
  of_error : ∀ failure, result = .error failure →
    .error failure ∈ commits.map Asking.selected ∨ .error failure ∈ trees.map Asking.located ∨
      .error failure ∈ contents.map Asking.found ∨
      ∃ reference, Yields (contents.map Asking.found) reference ∧
        settings.target.judge reference = .malformed ∧
        failure = .of (.malformedReference reference.text)

/-- Every resolution of live tags goes through the stages, whatever is asked and whenever
answers arrive. -/
theorem shows_liveTags (h : observer.Hears history) (schedules : Schedules)
    (settings : Settings) (roots : List RootFilter) :
    observer.Shows (liveTags history schedules settings roots) fun record result =>
      ∃ commits trees contents, record = commits ++ (trees ++ contents) ∧
        Course settings roots commits trees contents result := by
  refine ((shows_liveImages h schedules settings.trackedPath settings.maxParallel roots).bind
    fun references => shows_select settings.target references).mono ?_
  rintro record result (⟨failure, ⟨commits, trees, contents, rfl, hcourse⟩, rfl⟩ |
    ⟨references, _, _, rfl, ⟨commits, trees, contents, rfl, hcourse⟩, rfl, hok, herror⟩)
  · refine ⟨commits, trees, contents, rfl, hcourse.toStages, by simp, ?_⟩
    rintro _ ⟨⟩
    exact (hcourse.of_error failure rfl).imp_right (Or.imp_right Or.inl)
  · obtain ⟨hresolved, hlocated, hextracted, hmem⟩ := hcourse.of_ok references rfl
    simp only [hmem] at hok herror
    refine ⟨commits, trees, contents, by simp, hcourse.toStages, fun tags htags => ?_,
      fun failure hfailure => Or.inr (Or.inr (Or.inr (herror failure hfailure)))⟩
    obtain ⟨hnone, htag⟩ := hok tags htags
    exact ⟨hresolved, hlocated, hextracted, hnone, htag⟩

end ImageRetention.LiveSet
