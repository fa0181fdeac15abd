import Mathlib.Tactic
import ImageRetention.History.Memory
import ImageRetention.Proofs.History.Chronicle

/-!
Histories kept in memory, built step by step.

* `History.Memory.Step`: a root filter, a tracked file or a tree that is put in;
* `Chronicle.step`, `History.Memory.step`: the same step on what there is and on what is kept;
* `History.Memory.Keeps`: what is kept in memory is a chronicle, key by key;
* `Keeps.step`, `keeps_build`: every step keeps it so, and so do all steps in a row;
* `Keeps.prints`, `prints_build`: a history built in memory prints the chronicle that was built.
-/

namespace ImageRetention

/-! ### Steps -/

/-- The tracked file by a name, as an entry of a tree. -/
def TreeEntry.tracked (object : ObjectId) (h : Text.IsWord object.text) : TreeEntry where
  mode := "100644"
  kind := "blob"
  object := object
  path := ".travis.yml"
  mode_isWord := by decide
  kind_isWord := by decide
  object_isWord := h
  path_no_newline := by decide

namespace History.Memory

/-- A step in building a history. -/
inductive Step
  /-- Filters with some arguments select some commits. -/
  | root (args : List String) (commits : List CommitId)
      (h : ∀ commit ∈ commits, Text.IsWord commit.text)
  /-- The tracked file at a commit is a stored revision with some content. -/
  | blob (commit : CommitId) (object : ObjectId) (h : Text.IsWord object.text) (content : String)
  /-- Some entries are at a commit. -/
  | tree (commit : CommitId) (entries : List TreeEntry)

/-- A history in memory after a step. -/
def step (memory : Memory) : Step → Memory
  | .root args commits _ => memory.withRoot args (commits.map CommitId.text)
  | .blob commit object _ content => memory.withBlob commit.text object.text content
  | .tree commit entries => memory.withTree commit.text (TreeListing.print entries)

/-- A history in memory after some steps. -/
def build (steps : List Step) : Memory := steps.foldl step {}

end History.Memory

namespace Chronicle

/-- Nothing is known and nothing is stored, and there is nothing in any commit. -/
def empty : Chronicle := ⟨fun _ => none, fun _ => [], fun _ => none, by simp⟩

/-- A chronicle after a step: what was there for the same key before is replaced. -/
def step (chronicle : Chronicle) : History.Memory.Step → Chronicle
  | .root args commits h =>
    { chronicle with
      selected := Function.update chronicle.selected ⟨args⟩ (some commits)
      selected_isWord := by
        intro root found hfound
        rw [Function.update_apply] at hfound
        split at hfound
        · exact Option.some.inj hfound ▸ h
        · exact chronicle.selected_isWord root found hfound }
  | .blob commit object h content =>
    { chronicle with
      entries := Function.update chronicle.entries commit [.tracked object h]
      content := Function.update chronicle.content object (some (Text.Utf8.bytesOf content)) }
  | .tree commit entries =>
    { chronicle with entries := Function.update chronicle.entries commit entries }

/-- A chronicle after some steps. -/
def build (steps : List History.Memory.Step) : Chronicle := steps.foldl step empty

end Chronicle

/-! ### What is kept in memory -/

namespace History.Memory

/-- What is kept in memory is a chronicle. -/
structure Keeps (memory : Memory) (chronicle : Chronicle) : Prop where
  roots : ∀ root : RootFilter, memory.roots.lookup root.args =
    (chronicle.selected root).map (List.map CommitId.text)
  trees : ∀ commit : CommitId, (memory.trees.lookup commit.text).getD "" =
    TreeListing.print (chronicle.entries commit)
  objects : ∀ object : ObjectId, memory.objects.lookup object.text = chronicle.content object
  none_failing : memory.failing = []

lemma keeps_empty : Keeps {} .empty := ⟨fun _ => rfl, fun _ => rfl, fun _ => rfl, rfl⟩

/-- A later entry for the same key takes the place of an earlier one. -/
lemma lookup_cons_of_injective {κ α β : Type} [DecidableEq κ] [BEq α] [LawfulBEq α] {f : κ → α}
    (hf : Function.Injective f) (key other : κ) (value : β) (table : List (α × β)) :
    ((f key, value) :: table).lookup (f other) =
      if other = key then some value else table.lookup (f other) := by
  by_cases h : other = key
  · simp [h]
  · have hne : (f other == f key) = false := by simpa using fun heq => h (hf heq)
    simp [List.lookup_cons, hne, h]

lemma injective_args : Function.Injective RootFilter.args := by
  rintro ⟨_⟩ ⟨_⟩ rfl
  rfl

lemma injective_commit : Function.Injective CommitId.text := by
  rintro ⟨_⟩ ⟨_⟩ rfl
  rfl

lemma injective_object : Function.Injective ObjectId.text := by
  rintro ⟨_⟩ ⟨_⟩ rfl
  rfl

lemma print_tracked (object : ObjectId) (h : Text.IsWord object.text) :
    TreeListing.print [.tracked object h] = "100644 blob " ++ object.text ++ "\t.travis.yml\n" := by
  rw [← String.toList_inj]
  simp [TreeListing.print, TreeEntry.line, TreeEntry.tracked]

variable {memory : Memory} {chronicle : Chronicle}

lemma Keeps.trees_withTree (h : memory.Keeps chronicle) {commit : CommitId} {listing : String}
    {entries : List TreeEntry} (hlisting : listing = TreeListing.print entries)
    (other : CommitId) :
    ((memory.withTree commit.text listing).trees.lookup other.text).getD "" =
      TreeListing.print (Function.update chronicle.entries commit entries other) := by
  rw [withTree, lookup_cons_of_injective injective_commit, Function.update_apply]
  split
  · exact hlisting
  · exact h.trees other

/-- A step that is made on both sides keeps them in step. -/
theorem Keeps.step (h : memory.Keeps chronicle) (step : Step) :
    (memory.step step).Keeps (chronicle.step step) := by
  cases step with
  | root args commits hwords =>
      refine ⟨fun root => ?_, h.trees, h.objects, h.none_failing⟩
      have hlookup := lookup_cons_of_injective injective_args ⟨args⟩ root
        (commits.map CommitId.text) memory.roots
      simp only [Memory.step, withRoot, Chronicle.step, Function.update_apply, hlookup]
      split
      · rfl
      · exact h.roots root
  | blob commit object hword content =>
      refine ⟨h.roots, h.trees_withTree (print_tracked object hword).symm, fun other => ?_,
        h.none_failing⟩
      have hlookup := lookup_cons_of_injective injective_object object other
        (Text.Utf8.bytesOf content) memory.objects
      simp only [Memory.step, withBlob, withTree, Chronicle.step, Function.update_apply, hlookup]
      split
      · rfl
      · exact h.objects other
  | tree commit entries => exact ⟨h.roots, h.trees_withTree rfl, h.objects, h.none_failing⟩

/-- A history and a chronicle that were built in the same steps are in step. -/
theorem keeps_build (steps : List Step) : (build steps).Keeps (.build steps) := by
  suffices hfold : ∀ (memory : Memory) (chronicle : Chronicle), memory.Keeps chronicle →
      (steps.foldl step memory).Keeps (steps.foldl Chronicle.step chronicle) from
    hfold _ _ keeps_empty
  induction steps with
  | nil => exact fun _ _ h => h
  | cons first rest ih => exact fun _ _ h => ih _ _ (h.step first)

/-! ### What is printed from memory -/

/-- Commits joined by line feeds, and one more at the end, are printed commits. -/
lemma printedAs_intercalate (commits : List CommitId) : CommitList.PrintedAs commits
    (String.intercalate "\n" (commits.map CommitId.text) ++ "\n") := by
  cases commits with
  | nil => exact .blank rfl
  | cons first rest =>
      suffices hjoin : String.intercalate "\n" ((first :: rest).map CommitId.text) ++ "\n" =
          CommitList.print (first :: rest) from hjoin ▸ .lines
      induction rest generalizing first with
      | nil =>
          rw [← String.toList_inj]
          simp [CommitList.print]
      | cons next rest ih =>
          rw [List.map_cons, String.intercalate_cons_of_ne_nil (by simp), String.append_assoc,
            ih next, ← String.toList_inj, CommitList.toList_print_cons]
          simp

/-- A history that keeps a chronicle prints it. -/
theorem Keeps.prints (h : memory.Keeps chronicle) (path : String) :
    memory.answers.Prints path chronicle where
  selected root commits hselected := by
    have hlookup := h.roots root
    rw [hselected, Option.map_some] at hlookup
    exact ⟨_, by simp only [answers, Memory.commits, hlookup], printedAs_intercalate commits⟩
  unselected root hselected := by
    have hlookup := h.roots root
    rw [hselected, Option.map_none] at hlookup
    simp [answers, Memory.commits, hlookup]
  tree commit := by
    have hfailing : ¬memory.failing.contains commit.text = true := by simp [h.none_failing]
    change Memory.tree memory commit path = _
    rw [Memory.tree, if_neg hfailing, h.trees]
  stored object bytes hstored := by
    simp only [answers, Memory.content, h.objects object, hstored]
  unstored object hstored := by
    simp [answers, Memory.content, h.objects object, hstored]

lemma prints_build (steps : List Step) (path : String) :
    (build steps).answers.Prints path (.build steps) :=
  (keeps_build steps).prints path

end History.Memory

end ImageRetention
