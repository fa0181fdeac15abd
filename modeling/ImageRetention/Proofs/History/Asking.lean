import Mathlib.Tactic
import ImageRetention.History
import ImageRetention.History.CommitList
import ImageRetention.History.TreeListing
import ImageRetention.Image.Assignment
import ImageRetention.Proofs.Observer

/-!
Questions to a history with the answers they got.

* `Asking`: a question and its answer, a success or a failure;
* `Asking.selected`, `Asking.located`, `Asking.found`: what the resolution of live images
  takes from an answer, and how it words a failure;
* `selected_eq_ok`, `located_eq_ok`, `located_eq_error`, `found_eq_ok`: when that is something,
  and when it is a failure;
* `Observer.Hears`: an observer who writes down each question with its answer, as it was
  given.
-/

namespace ImageRetention

/-! ### Results with other failures and values -/

section Results

variable {ε ε' α β : Type} {result : Except ε α} {word : ε → ε'}

lemma mapError_eq_ok {value : α} : result.mapError word = .ok value ↔ result = .ok value := by
  cases result <;> simp [Except.mapError]

lemma mapError_eq_error {failure : ε'} :
    result.mapError word = .error failure ↔
      ∃ inner, result = .error inner ∧ word inner = failure := by
  cases result <;> simp [Except.mapError]

lemma map_mapError_eq_ok {take : α → β} {found : β} :
    (result.mapError word).map take = .ok found ↔
      ∃ value, result = .ok value ∧ take value = found := by
  cases result <;> simp [Except.mapError, Except.map]

lemma map_mapError_eq_error {take : α → β} {failure : ε'} :
    (result.mapError word).map take = .error failure ↔
      ∃ inner, result = .error inner ∧ word inner = failure := by
  cases result <;> simp [Except.mapError, Except.map]

end Results

/-! ### Questions and answers -/

/-- A question to a history with its answer. -/
inductive Asking
  | commits (root : RootFilter) (answer : Except Failure String)
  | tree (commit : CommitId) (path : String) (answer : Except Failure String)
  | content (object : ObjectId) (answer : Except Failure (List UInt8))

namespace Asking

/-- The question. -/
def query : Asking → Query
  | commits root _ => .commits root
  | tree commit path _ => .tree commit path
  | content object _ => .content object

/-! ### What is taken from an answer -/

/-- The commits that a list of commits names. -/
def selected : Asking → Except Failure (List CommitId)
  | commits root answer =>
    (answer.mapError fun failure =>
      failure.within ("Resolving commits for root '" ++ root.text ++ "'")).map CommitList.commits
  | _ => .ok []

/-- The revisions that a tree listing names. -/
def located : Asking → Except Failure (List ObjectId)
  | tree commit path answer =>
    (answer.mapError fun failure =>
      failure.within ("Locating '" ++ path ++ "' at commit " ++ commit.text)).bind
        fun listing => (TreeListing.objects listing).mapError Failure.of
  | _ => .ok []

/-- The references that a revision holds. -/
def found : Asking → Except Failure (List ImageReference)
  | content object answer =>
    (answer.mapError fun failure =>
      failure.within ("Reading content object " ++ object.text)).map
        fun bytes => (Image.scan bytes).toList
  | _ => .ok []

lemma selected_eq_ok {root : RootFilter} {answer : Except Failure String}
    {taken : List CommitId} :
    (commits root answer).selected = .ok taken ↔
      ∃ output, answer = .ok output ∧ CommitList.commits output = taken :=
  map_mapError_eq_ok

lemma located_eq_ok {commit : CommitId} {path : String} {answer : Except Failure String}
    {taken : List ObjectId} :
    (tree commit path answer).located = .ok taken ↔
      ∃ listing, answer = .ok listing ∧ TreeListing.objects listing = .ok taken := by
  rcases answer with failure | listing
  · simp [located, Except.mapError, Except.bind]
  · cases hlisting : TreeListing.objects listing <;>
      simp [located, Except.mapError, Except.bind, hlisting]

lemma located_eq_error {commit : CommitId} {path : String} {answer : Except Failure String}
    {failure : Failure} :
    (tree commit path answer).located = .error failure ↔
      (∃ inner, answer = .error inner ∧
        inner.within ("Locating '" ++ path ++ "' at commit " ++ commit.text) = failure) ∨
      ∃ listing cause, answer = .ok listing ∧
        TreeListing.objects listing = .error cause ∧ .of cause = failure := by
  rcases answer with inner | listing
  · simp [located, Except.mapError, Except.bind]
  · cases hlisting : TreeListing.objects listing <;>
      simp [located, Except.mapError, Except.bind, hlisting]

lemma found_eq_ok {object : ObjectId} {answer : Except Failure (List UInt8)}
    {taken : List ImageReference} :
    (content object answer).found = .ok taken ↔
      ∃ bytes, answer = .ok bytes ∧ (Image.scan bytes).toList = taken :=
  map_mapError_eq_ok

/-! ### Questions told by their kind -/

lemma eq_commits {asking : Asking} {root : RootFilter} (h : asking.query = .commits root) :
    ∃ answer, asking = .commits root answer := by
  cases asking <;> cases h
  exact ⟨_, rfl⟩

lemma eq_tree {asking : Asking} {commit : CommitId} {path : String}
    (h : asking.query = .tree commit path) : ∃ answer, asking = .tree commit path answer := by
  cases asking <;> cases h
  exact ⟨_, rfl⟩

lemma eq_content {asking : Asking} {object : ObjectId} (h : asking.query = .content object) :
    ∃ answer, asking = .content object answer := by
  cases asking <;> cases h
  exact ⟨_, rfl⟩

end Asking

/-- An observer writes down each question to a history with the answer it gets. -/
structure Observer.Hears {σ : Type} (observer : Observer σ Asking) (history : History σ) :
    Prop where
  commits : ∀ root, observer.Shows (history.askCommits root) fun record result =>
    record = [.commits root result]
  tree : ∀ commit path, observer.Shows (history.askTree commit path) fun record result =>
    record = [.tree commit path result]
  content : ∀ object, observer.Shows (history.askContent object) fun record result =>
    record = [.content object result]

end ImageRetention
