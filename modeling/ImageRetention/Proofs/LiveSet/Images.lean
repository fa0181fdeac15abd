import Mathlib.Tactic
import ImageRetention.Proofs.History.Building
import ImageRetention.Proofs.LiveSet.Meaning

/-!
The live images of a history that is printed.

* `LiveSet.liveImages_result`: the live images are known just if the answers of a history are
  readable, and are then the references in the answers;
* `Chronicle.Selects`, `Chronicle.Tracks`, `Chronicle.Refers`, `Chronicle.Complete`: what a
  chronicle says, without anything being printed;
* `Prints.selects_iff`, `Prints.tracks_iff`, `Prints.refers_iff`, `Prints.readable_iff`: answers
  that print a chronicle say what the chronicle says;
* `printed_history_read`: whoever prints a chronicle has its live images found, and a history built
  in memory prints the chronicle that was built.
-/

namespace ImageRetention

open History (Answers)

namespace LiveSet

variable {answers : Answers} {path : String} {roots : List RootFilter}
  {commits trees contents : List Asking}

/-! ### The meaning of the live images -/

/-- If a resolution of live images succeeds then the answers are readable. -/
lemma ImageCourse.readable {references : SortedSet ImageReference}
    (h : ImageCourse path roots commits trees contents (.ok references))
    (hcommits : answers.Back commits) (htrees : answers.Back trees)
    (hcontents : answers.Back contents) : answers.Readable path roots := by
  obtain ⟨hresolved, hlocated, hextracted, -⟩ := h.of_ok references rfl
  exact hresolved.readable hlocated hextracted hcommits htrees hcontents

/-- If a resolution of live images succeeds then it finds the references in the answers. -/
lemma ImageCourse.mem_iff {references : SortedSet ImageReference}
    (h : ImageCourse path roots commits trees contents (.ok references))
    (hcommits : answers.Back commits) (htrees : answers.Back trees)
    (hcontents : answers.Back contents) (reference : ImageReference) :
    reference ∈ references ↔ answers.Refers path roots reference := by
  obtain ⟨hresolved, hlocated, hextracted, hmem⟩ := h.of_ok references rfl
  rw [hmem]
  exact ⟨h.refers hcommits htrees hcontents,
    hextracted.yields hlocated hresolved hcommits htrees hcontents⟩

/-- A resolution of live images fails only over answers that cannot be read. -/
lemma ImageCourse.not_readable {failure : Failure}
    (h : ImageCourse path roots commits trees contents (.error failure))
    (hcommits : answers.Back commits) (htrees : answers.Back trees)
    (hcontents : answers.Back contents) : ¬answers.Readable path roots := by
  intro hreadable
  rcases h.of_error failure rfl with hfails | hfails | hfails <;>
    obtain ⟨asking, hasking, hfails⟩ := List.mem_map.mp hfails
  · obtain ⟨root, hroot, rfl⟩ := h.exists_root hcommits hasking
    obtain ⟨inner, hinner, -⟩ := map_mapError_eq_error.mp hfails
    obtain ⟨output, houtput⟩ := hreadable.commits root hroot
    simp [hinner] at houtput
  · obtain ⟨commit, hcommit, rfl⟩ := h.exists_commit hcommits htrees hasking
    obtain ⟨listing, hlisting, hlong⟩ := hreadable.trees commit hcommit
    obtain ⟨inner, hinner, -⟩ | ⟨other, cause, hother, hcause, -⟩ :=
      located_reply_eq_error.mp hfails
    · simp [hlisting] at hinner
    · obtain rfl : listing = other := by simpa [hlisting] using hother
      obtain ⟨line, hline, hshort, -⟩ := TreeListing.objectsOf_eq_error hcause
      exact absurd (hlong line hline) (by omega)
  · obtain ⟨object, hobject, rfl⟩ := h.exists_object hcommits htrees hcontents hasking
    obtain ⟨inner, hinner, -⟩ := map_mapError_eq_error.mp hfails
    obtain ⟨bytes, hbytes⟩ := hreadable.contents object hobject
    simp [hinner] at hbytes

/-- The live images are known just if the answers are readable, and are then the references in
the answers. -/
theorem liveImages_result {σ : Type} {history : History σ} (h : history.Gives answers)
    (schedules : Schedules) (path : String) (limit : Nat) (roots : List RootFilter) (state : σ) :
    ((∃ references, (liveImages history schedules path limit roots state).result =
        .ok references) ↔ answers.Readable path roots) ∧
      ∀ references, (liveImages history schedules path limit roots state).result =
        .ok references → ∀ reference,
          reference ∈ references ↔ answers.Refers path roots reference := by
  obtain ⟨record, hback, commits, trees, contents, rfl, hcourse⟩ :=
    shows_liveImages h.hears schedules path limit roots state
  obtain ⟨hcommits, hrest⟩ := History.Answers.back_append.mp hback
  obtain ⟨htrees, hcontents⟩ := History.Answers.back_append.mp hrest
  cases hresult : (liveImages history schedules path limit roots state).result with
  | error failure =>
      rw [hresult] at hcourse
      have hnot := hcourse.not_readable hcommits htrees hcontents
      exact ⟨by simp [hnot], by simp⟩
  | ok references =>
      rw [hresult] at hcourse
      have hreadable := hcourse.readable hcommits htrees hcontents
      refine ⟨by simp [hreadable], ?_⟩
      rintro _ ⟨⟩
      exact hcourse.mem_iff hcommits htrees hcontents

end LiveSet

/-! ### What a chronicle says -/

namespace Chronicle

/-- Some root filter selects a commit. -/
def Selects (chronicle : Chronicle) (roots : List RootFilter) (commit : CommitId) : Prop :=
  ∃ root ∈ roots, ∃ commits, chronicle.selected root = some commits ∧ commit ∈ commits

/-- A revision of a file is in a selected commit. -/
def Tracks (chronicle : Chronicle) (roots : List RootFilter) (object : ObjectId) : Prop :=
  ∃ commit, chronicle.Selects roots commit ∧
    ∃ entry ∈ chronicle.entries commit, entry.IsFile ∧ entry.object = object

/-- A reference is in a revision of a file in a selected commit. -/
def Refers (chronicle : Chronicle) (roots : List RootFilter) (reference : ImageReference) : Prop :=
  ∃ object, chronicle.Tracks roots object ∧ ∃ bytes, chronicle.content object = some bytes ∧
    reference ∈ Image.scan bytes

/-- All root filters are known, and all files in the selected commits are stored. -/
structure Complete (chronicle : Chronicle) (roots : List RootFilter) : Prop where
  selected : ∀ root ∈ roots, ∃ commits, chronicle.selected root = some commits
  stored : ∀ object, chronicle.Tracks roots object → ∃ bytes, chronicle.content object = some bytes

/-- What is found of a chronicle: something just if the chronicle is complete, and then its
references. -/
structure ReadAs (chronicle : Chronicle) (roots : List RootFilter)
    (result : Except Failure (SortedSet ImageReference)) : Prop where
  succeeds_iff : (∃ references, result = .ok references) ↔ chronicle.Complete roots
  mem_iff : ∀ references, result = .ok references →
    ∀ reference, reference ∈ references ↔ chronicle.Refers roots reference

end Chronicle

namespace History.Answers.Prints

variable {answers : Answers} {path : String} {chronicle : Chronicle}

lemma named_iff (h : answers.Prints path chronicle) {root : RootFilter} {commit : CommitId} :
    (∃ output, answers.commits root = .ok output ∧
        ∃ line ∈ Text.lines output.toList, CommitList.Names line commit) ↔
      ∃ commits, chronicle.selected root = some commits ∧ commit ∈ commits := by
  simp only [← CommitList.mem_commits_iff]
  cases hselected : chronicle.selected root with
  | none =>
      obtain ⟨failure, hfailure⟩ := h.unselected root hselected
      simp [hfailure]
  | some commits =>
      obtain ⟨output, houtput, hprinted⟩ := h.selected root commits hselected
      have hread := CommitList.commits_of_printedAs
        (chronicle.selected_isWord root commits hselected) hprinted
      simp [houtput, hread]

lemma listed_iff (h : answers.Prints path chronicle) {commit : CommitId} {object : ObjectId} :
    (∃ listing, answers.tree commit path = .ok listing ∧
        ∃ line ∈ Text.lines listing.toList, TreeListing.Names line object) ↔
      ∃ entry ∈ chronicle.entries commit, entry.IsFile ∧ entry.object = object := by
  have hobjects := TreeListing.objects_print (chronicle.entries commit)
  have hnames := (TreeListing.objectsOf_eq_ok hobjects).2 object
  simp [h.tree commit, ← hnames, and_assoc]

lemma stored_iff (h : answers.Prints path chronicle) {object : ObjectId} {bytes : List UInt8} :
    answers.content object = .ok bytes ↔ chronicle.content object = some bytes := by
  cases hstored : chronicle.content object with
  | none =>
      obtain ⟨failure, hfailure⟩ := h.unstored object hstored
      simp [hfailure]
  | some other => simp [h.stored object other hstored]

lemma selects_iff (h : answers.Prints path chronicle) (roots : List RootFilter)
    (commit : CommitId) : answers.Selects roots commit ↔ chronicle.Selects roots commit := by
  simp only [Answers.Selects, Chronicle.Selects, h.named_iff]

lemma tracks_iff (h : answers.Prints path chronicle) (roots : List RootFilter)
    (object : ObjectId) : answers.Tracks path roots object ↔ chronicle.Tracks roots object := by
  simp only [Answers.Tracks, Chronicle.Tracks, h.selects_iff, h.listed_iff]

lemma refers_iff (h : answers.Prints path chronicle) (roots : List RootFilter)
    (reference : ImageReference) :
    answers.Refers path roots reference ↔ chronicle.Refers roots reference := by
  simp only [Answers.Refers, Chronicle.Refers, h.tracks_iff, h.stored_iff]

/-- Answers that print a chronicle can be read just if the chronicle is complete: the trees are
always read, whatever their paths are. -/
lemma readable_iff (h : answers.Prints path chronicle) (roots : List RootFilter) :
    answers.Readable path roots ↔ chronicle.Complete roots := by
  constructor
  · rintro ⟨hcommits, -, hcontents⟩
    refine ⟨fun root hroot => ?_, fun object hobject => ?_⟩
    · obtain ⟨output, houtput⟩ := hcommits root hroot
      refine Option.ne_none_iff_exists'.mp fun hnone => ?_
      obtain ⟨failure, hfailure⟩ := h.unselected root hnone
      simp [hfailure] at houtput
    · obtain ⟨bytes, hbytes⟩ := hcontents object ((h.tracks_iff roots object).mpr hobject)
      exact ⟨bytes, h.stored_iff.mp hbytes⟩
  · rintro ⟨hselected, hstored⟩
    refine ⟨fun root hroot => ?_, fun commit _ => ?_, fun object hobject => ?_⟩
    · obtain ⟨commits, hcommits⟩ := hselected root hroot
      obtain ⟨output, houtput, -⟩ := h.selected root commits hcommits
      exact ⟨output, houtput⟩
    · have hobjects := TreeListing.objects_print (chronicle.entries commit)
      exact ⟨_, h.tree commit, (TreeListing.objectsOf_eq_ok hobjects).1⟩
    · obtain ⟨bytes, hbytes⟩ := hstored object ((h.tracks_iff roots object).mp hobject)
      exact ⟨bytes, h.stored_iff.mpr hbytes⟩

end History.Answers.Prints

/-! ### Reading what was printed -/

/-- The live images of a printed history are the references of the chronicle behind it: printing
and reading lose nothing and confuse nothing.  Every chronicle can be printed, and a history
built in memory prints the chronicle that was built in the same steps. -/
theorem printed_history_read :
    (∀ (answers : Answers) (chronicle : Chronicle) (path : String),
      answers.Prints path chronicle →
      ∀ (σ : Type) (history : History σ), history.Gives answers →
      ∀ (schedules : Schedules) (limit : Nat) (roots : List RootFilter) (state : σ),
        chronicle.ReadAs roots (liveImages history schedules path limit roots state).result) ∧
    (∀ (chronicle : Chronicle) (refusal : Failure) (path : String),
      (chronicle.answers refusal).Prints path chronicle) ∧
    ∀ (steps : List History.Memory.Step) (path : String),
      (History.Memory.build steps).answers.Prints path (.build steps) := by
  refine ⟨?_, Chronicle.answers_prints, History.Memory.prints_build⟩
  intro answers chronicle path hprints σ history hgives schedules limit roots state
  obtain ⟨hsucceeds, hmem⟩ :=
    LiveSet.liveImages_result hgives schedules path limit roots state
  refine ⟨hsucceeds.trans (hprints.readable_iff roots), fun references hreferences reference => ?_⟩
  exact (hmem references hreferences reference).trans (hprints.refers_iff roots reference)

/-- Two commits with one file, whose content is replaced, and a submodule with a strange path. -/
def sampleSteps : List History.Memory.Step :=
  [.root ["master"] [⟨"c1"⟩, ⟨"c2"⟩] (by decide),
    .blob ⟨"c1"⟩ ⟨"b1"⟩ (by decide) "nothing yet",
    .tree ⟨"c2"⟩
      [⟨"160000", "commit", ⟨"m1"⟩, "a blob\tb2\r", by decide, by decide, by decide, by decide⟩,
        .tracked ⟨"b1"⟩ (by decide)],
    .blob ⟨"c1"⟩ ⟨"b1"⟩ (by decide)
      "CI_BUILD_CONTAINER=bondciimages.azurecr.io/ubuntu-1604:v1\n"]

/-- The history that these steps build is complete, and names one image. -/
theorem printed_history_read_sample :
    (Chronicle.build sampleSteps).Complete [⟨["master"]⟩] ∧
      (Chronicle.build sampleSteps).Refers [⟨["master"]⟩]
        ⟨"bondciimages.azurecr.io/ubuntu-1604:v1"⟩ := by
  let answers := (History.Memory.build sampleSteps).answers
  obtain ⟨hread, -, hbuild⟩ := printed_history_read
  have hprints : answers.Prints ".travis.yml" (.build sampleSteps) := hbuild sampleSteps _
  have hreads := hread answers _ _ hprints Unit answers.history answers.gives .inOrder 2
    [⟨["master"]⟩] ()
  have hfound : (liveImages (σ := Unit) answers.history .inOrder ".travis.yml" 2
      [⟨["master"]⟩] ()).result.toOption.any
        (·.contains ⟨"bondciimages.azurecr.io/ubuntu-1604:v1"⟩) = true := by
    decide +kernel
  cases hresult : (liveImages (σ := Unit) answers.history .inOrder ".travis.yml" 2
      [⟨["master"]⟩] ()).result with
  | error failure => simp [hresult, Except.toOption] at hfound
  | ok references =>
      have hmem : (⟨"bondciimages.azurecr.io/ubuntu-1604:v1"⟩ : ImageReference) ∈ references := by
        simpa [hresult, Except.toOption] using hfound
      exact ⟨hreads.succeeds_iff.mp ⟨references, hresult⟩,
        (hreads.mem_iff references hresult _).mp hmem⟩

end ImageRetention
