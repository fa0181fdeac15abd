import Mathlib.Tactic
import ImageRetention.History
import ImageRetention.Proofs.History.Listing
import ImageRetention.Proofs.Text.Printed

/-!
Histories as they are, and as they are printed.

* `CommitList.print`, `CommitList.commits_print`: commits one a line, and read back;
* `TreeEntry`, `TreeListing.print`, `TreeListing.objects_print`: the entries of a tree one a line,
  and the file revisions among them read back;
* `Chronicle`: what root filters select, what is in commits, and what is stored, not yet printed;
* `History.Answers.Prints`: answers that print a chronicle;
* `Chronicle.answers`, `Chronicle.answers_prints`: there are such answers for every chronicle.

A name may stand in a line only as a word, and a path only without line feeds: these are the
facts that reading back rests on, so the structures here carry them.
-/

namespace ImageRetention

/-! ### Commits -/

namespace CommitList

/-- Some commits, one a line. -/
def print (commits : List CommitId) : String :=
  String.join (commits.map fun commit => commit.text ++ "\n")

lemma toList_print_cons (commit : CommitId) (rest : List CommitId) :
    (print (commit :: rest)).toList = commit.text.toList ++ '\n' :: (print rest).toList := by
  simp [print]

/-- Commits that were printed are read back, in order and with repetitions. -/
theorem commits_print {commits : List CommitId} (h : ∀ commit ∈ commits, Text.IsWord commit.text) :
    CommitList.commits (print commits) = commits := by
  induction commits with
  | nil => rfl
  | cons commit rest ih =>
      obtain ⟨hword, hrest⟩ := List.forall_mem_cons.mp h
      obtain ⟨line, hlines, hline⟩ :=
        Text.lines_cons_line (hword.not_mem (by decide)) (print rest).toList
      obtain rfl : commit.text.toList = line := by
        refine hline.resolve_right fun hreturn => hword.not_mem (c := '\r') (by decide) ?_
        simp [hreturn]
      have hne : commit.text ≠ "" := hword.ne_empty
      have hread := ih hrest
      rw [CommitList.commits] at hread ⊢
      rw [toList_print_cons, hlines, List.map_cons, Text.trim_of_isWord hword,
        List.filter_cons_of_pos (by simpa using hne), List.map_cons, hread, String.ofList_toList]

/-- Some commits as they may be printed.  If there are none then an empty line will do. -/
inductive PrintedAs (commits : List CommitId) : String → Prop
  | lines : PrintedAs commits (print commits)
  | blank (h : commits = []) : PrintedAs commits "\n"

lemma commits_of_printedAs {commits : List CommitId} {output : String}
    (hwords : ∀ commit ∈ commits, Text.IsWord commit.text) (h : PrintedAs commits output) :
    CommitList.commits output = commits := by
  cases h with
  | lines => exact commits_print hwords
  | blank h =>
      rw [h]
      rfl

end CommitList

/-! ### Trees -/

/-- An entry of a tree: a file, a directory or a submodule, by its name and its path. -/
structure TreeEntry where
  mode : String
  kind : String
  object : ObjectId
  path : String
  mode_isWord : Text.IsWord mode
  kind_isWord : Text.IsWord kind
  object_isWord : Text.IsWord object.text
  path_no_newline : '\n' ∉ path.toList

namespace TreeEntry

/-- An entry in a line. -/
def line (entry : TreeEntry) : String :=
  entry.mode ++ " " ++ entry.kind ++ " " ++ entry.object.text ++ "\t" ++ entry.path

lemma toList_line (entry : TreeEntry) : entry.line.toList =
    entry.mode.toList ++ ' ' :: (entry.kind.toList ++ ' ' :: (entry.object.text.toList ++
      '\t' :: entry.path.toList)) := by
  simp [line]

lemma newline_notMem_line (entry : TreeEntry) : '\n' ∉ entry.line.toList := by
  have hblank : Text.isBlank '\n' = true := by decide
  simp [toList_line, entry.mode_isWord.not_mem hblank, entry.kind_isWord.not_mem hblank,
    entry.object_isWord.not_mem hblank, entry.path_no_newline]

/-- The first three fields of an entry are found in its line, whatever its path is. -/
lemma fields_line (entry : TreeEntry) : Text.fields entry.line.toList =
    entry.mode.toList :: entry.kind.toList :: entry.object.text.toList ::
      Text.fields entry.path.toList := by
  have hspace : Text.isBlank ' ' = true := by decide
  have htab : Text.isBlank '\t' = true := by decide
  rw [toList_line, Text.fields_word_append entry.mode_isWord hspace,
    Text.fields_word_append entry.kind_isWord hspace,
    Text.fields_word_append entry.object_isWord htab]

/-- An entry is read back, even if its path ends in a carriage return. -/
lemma kindAndName?_line {entry : TreeEntry} {line : List Char}
    (h : entry.line.toList = line ∨ entry.line.toList = line ++ ['\r']) :
    TreeListing.kindAndName? line = some (entry.kind.toList, entry.object.text.toList) := by
  have hfields : Text.fields line = Text.fields entry.line.toList := by
    rcases h with h | h
    · rw [h]
    · rw [h, Text.fields_append_blank (by decide)]
  exact TreeListing.kindAndName?_eq_some_iff.mpr ⟨_, _, hfields.trans entry.fields_line⟩

/-- Whether an entry is a file. -/
def IsFile (entry : TreeEntry) : Prop := entry.kind = "blob"

instance (entry : TreeEntry) : Decidable entry.IsFile := inferInstanceAs (Decidable (_ = _))

lemma isFile_iff (entry : TreeEntry) :
    entry.IsFile ↔ entry.kind.toList = TreeListing.fileType := by
  rw [IsFile, ← String.toList_inj]
  rfl

end TreeEntry

namespace TreeListing

/-- Some entries, one a line. -/
def print (entries : List TreeEntry) : String :=
  String.join (entries.map fun entry => entry.line ++ "\n")

lemma toList_print_cons (entry : TreeEntry) (rest : List TreeEntry) :
    (print (entry :: rest)).toList = entry.line.toList ++ '\n' :: (print rest).toList := by
  simp [print]

/-- The files among entries that were printed are read back, and nothing else is, in order and
with repetitions. -/
theorem objects_print (entries : List TreeEntry) :
    objects (print entries) =
      .ok ((entries.filter fun entry => entry.IsFile).map TreeEntry.object) := by
  induction entries with
  | nil => rfl
  | cons entry rest ih =>
      obtain ⟨line, hlines, hline⟩ :=
        Text.lines_cons_line entry.newline_notMem_line (print rest).toList
      rw [objects] at ih ⊢
      rw [toList_print_cons, hlines, objectsOf, TreeEntry.kindAndName?_line hline, ih]
      by_cases hfile : entry.IsFile
      · have hkind := entry.isFile_iff.mp hfile
        simp [hfile, hkind, bind, Except.bind]
      · have hkind := mt entry.isFile_iff.mpr hfile
        simp [hfile, hkind, bind, Except.bind]

end TreeListing

/-! ### Chronicles -/

/-- A history that is not yet printed. -/
structure Chronicle where
  /-- The commits that a root filter selects, if it is known. -/
  selected : RootFilter → Option (List CommitId)
  /-- What is in a commit. -/
  entries : CommitId → List TreeEntry
  /-- What is stored, if anything is. -/
  content : ObjectId → Option (List UInt8)
  selected_isWord : ∀ root commits, selected root = some commits →
    ∀ commit ∈ commits, Text.IsWord commit.text

/-- Some answers print a chronicle, with what is at a path in each commit. -/
structure History.Answers.Prints (answers : History.Answers) (path : String)
    (chronicle : Chronicle) : Prop where
  selected : ∀ root commits, chronicle.selected root = some commits →
    ∃ output, answers.commits root = .ok output ∧ CommitList.PrintedAs commits output
  unselected : ∀ root, chronicle.selected root = none →
    ∃ failure, answers.commits root = .error failure
  tree : ∀ commit, answers.tree commit path = .ok (TreeListing.print (chronicle.entries commit))
  stored : ∀ object bytes, chronicle.content object = some bytes →
    answers.content object = .ok bytes
  unstored : ∀ object, chronicle.content object = none →
    ∃ failure, answers.content object = .error failure

namespace Chronicle

/-- The answers that print a chronicle, with one failure for all that is not known. -/
def answers (chronicle : Chronicle) (refusal : Failure) : History.Answers where
  commits root :=
    match chronicle.selected root with
    | some commits => .ok (CommitList.print commits)
    | none => .error refusal
  tree commit _ := .ok (TreeListing.print (chronicle.entries commit))
  content object :=
    match chronicle.content object with
    | some bytes => .ok bytes
    | none => .error refusal

lemma answers_prints (chronicle : Chronicle) (refusal : Failure) (path : String) :
    (chronicle.answers refusal).Prints path chronicle where
  selected root commits h := ⟨_, by simp only [answers, h], .lines⟩
  unselected root h := ⟨refusal, by simp only [answers, h]⟩
  tree _ := rfl
  stored object bytes h := by simp only [answers, h]
  unstored object h := ⟨refusal, by simp only [answers, h]⟩

end Chronicle

end ImageRetention
