import Mathlib.Tactic
import ImageRetention.FileTree
import ImageRetention.Proofs.Text.Piece

/-!
What is put into a file tree is found there.

* `FileTree.IsPlain`: a path of names below the working directory;
* `FileTree.walk_append`, `FileTree.walk_directories`: names lead through directories;
* `FileTree.find_of_isPlain`: what is at a plain path, by what is at the places on the way;
* `FileTree.contents_withFile`, `FileTree.existsAt_withDirectory`: files and directories that are
  put in at a plain path are found at it, unless a file is on the way.
-/

namespace ImageRetention.FileTree

variable {tree : FileTree} {path name : String} {names : List String}

/-! ### Plain paths -/

/-- A name that leads from a directory to what is in it. -/
structure IsName (name : String) : Prop where
  ne_empty : name ≠ ""
  ne_dot : name ≠ "."
  ne_dots : name ≠ ".."
  short : name.utf8ByteSize ≤ longestName

/-- Whether a path consists of names with single slashes between them, and can be looked up. -/
structure IsPlain (path : String) : Prop where
  isName : ∀ name ∈ parts path, IsName name
  noNul : '\x00' ∉ path.toList
  short : path.utf8ByteSize ≤ longestPath

lemma parts_ne_nil (path : String) : parts path ≠ [] := by
  rw [parts, Ne, List.map_eq_nil_iff]
  exact Text.split_ne_nil _ _

/-- There is nothing in front of a slash at the start, nor behind one at the end. -/
lemma empty_mem_parts {s t : List Char} (hpath : path.toList = s ++ '/' :: t)
    (h : s = [] ∨ t = []) : "" ∈ parts path := by
  rw [parts, hpath, Text.split_append]
  rcases h with rfl | rfl <;> simp [Text.split]

namespace IsPlain

lemma names_eq (h : IsPlain path) : FileTree.names path = parts path :=
  List.filter_eq_self.mpr fun name hname => by
    simp [(h.isName name hname).ne_empty, (h.isName name hname).ne_dot]

lemma steps_eq (h : IsPlain path) : (parts path).filter (· ≠ "") = parts path :=
  List.filter_eq_self.mpr fun name hname => by simp [(h.isName name hname).ne_empty]

lemma not_empty_mem (h : IsPlain path) : "" ∉ parts path :=
  fun hmem => (h.isName "" hmem).ne_empty rfl

lemma ne_empty (h : IsPlain path) : path ≠ "" := by
  rintro rfl
  exact h.not_empty_mem (by decide)

lemma not_isAbsolute (h : IsPlain path) : Path.isAbsolute path = false := by
  rw [Path.isAbsolute, beq_eq_false_iff_ne]
  intro hhead
  obtain ⟨rest, hrest⟩ := List.head?_eq_some_iff.mp hhead
  exact h.not_empty_mem (empty_mem_parts (s := []) hrest (.inl rfl))

lemma getLast?_ne (h : IsPlain path) : path.toList.getLast? ≠ some '/' := by
  intro hlast
  obtain ⟨rest, hrest⟩ := List.getLast?_eq_some_iff.mp hlast
  exact h.not_empty_mem (empty_mem_parts hrest (.inr rfl))

end IsPlain

/-! ### The way along names -/

/-- A name leads from the directory that the names before it lead to, to what is in it. -/
lemma walk_append (hwalk : names.foldlM tree.step (.inside [] .directory) =
      .ok (.inside names .directory)) (hname : IsName name) {node : Node}
    (hnode : tree.node? (names ++ [name]) = some node) :
    (names ++ [name]).foldlM tree.step (.inside [] .directory) =
      .ok (.inside (names ++ [name]) node) := by
  have hstep : tree.step (.inside names .directory) name =
      .ok (.inside (names ++ [name]) node) := by
    rw [step, if_neg hname.ne_dot, if_neg hname.ne_dots, if_neg (Nat.not_lt.mpr hname.short),
      hnode]
  rw [List.foldlM_append, hwalk]
  show (tree.step (.inside names .directory) name >>= pure) = _
  rw [bind_pure, hstep]

/-- Names lead through directories. -/
lemma walk_directories (hnames : ∀ name ∈ names, IsName name)
    (hdirectories : ∀ place, place <+: names → place ≠ [] → tree.node? place = some .directory) :
    names.foldlM tree.step (.inside [] .directory) = .ok (.inside names .directory) := by
  induction names using List.reverseRecOn with
  | nil => rfl
  | append_singleton names name ih =>
      rw [List.forall_mem_append, List.forall_mem_singleton] at hnames
      have hbefore := ih hnames.1 fun place hplace =>
        hdirectories place (hplace.trans (List.prefix_append names [name]))
      exact walk_append hbefore hnames.2 (hdirectories _ List.prefix_rfl (by simp))

/-- What is at a plain path, by what is at the places on the way to it. -/
lemma find_of_isPlain (h : IsPlain path) {node : Node}
    (hdirectories : ∀ place, place <+: (parts path).dropLast → place ≠ [] →
      tree.node? place = some .directory)
    (hnode : tree.node? (parts path) = some node) : tree.find path = .ok node := by
  have hparts := List.dropLast_append_getLast (parts_ne_nil path)
  have hnames := h.isName
  rw [← hparts, List.forall_mem_append, List.forall_mem_singleton] at hnames
  rw [← hparts] at hnode
  have hwalk := walk_append (walk_directories hnames.1 hdirectories) hnames.2 hnode
  rw [hparts] at hwalk
  have hnul : path.toList.contains '\x00' = false := by simpa using h.noNul
  rw [find, hnul, h.steps_eq, h.not_isAbsolute]
  simp only [Bool.false_eq_true, if_false, h.ne_empty, Nat.not_lt.mpr h.short, h.getLast?_ne,
    decide_false]
  rw [hwalk]
  cases node <;> rfl

/-! ### What is put in -/

lemma mem_above_iff {place : List String} : place ∈ above names ↔ place <+: names := by
  rw [above, List.mem_map]
  constructor
  · rintro ⟨count, -, rfl⟩
    exact List.take_prefix count names
  · intro h
    exact ⟨place.length, List.mem_range.mpr (Nat.lt_succ_of_le h.length_le),
      (List.prefix_iff_eq_take.mp h).symm⟩

lemma node?_eq_directory {place : List String} (hfile : tree.files.lookup place = none)
    (hdirectory : place ∈ tree.directories) : tree.node? place = some .directory := by
  simp [node?, hfile, hdirectory]

/-- A file that is put in at a plain path is found there, unless another one is on the way. -/
theorem contents_withFile (h : IsPlain path) (bytes : List UInt8)
    (hfree : ∀ place, place <+: (parts path).dropLast → tree.files.lookup place = none) :
    (tree.withFile path bytes).contents path = .ok bytes := by
  have hnode : (tree.withFile path bytes).node? (parts path) = some (.file bytes) := by
    simp [withFile, node?, h.names_eq]
  have hdirectories : ∀ place, place <+: (parts path).dropLast → place ≠ [] →
      (tree.withFile path bytes).node? place = some .directory := by
    intro place hplace _
    have hne : (place == parts path) = false := by
      have hlength := hplace.length_le
      have hpositive := List.length_pos_iff.mpr (parts_ne_nil path)
      rw [List.length_dropLast] at hlength
      rw [beq_eq_false_iff_ne]
      rintro rfl
      omega
    refine node?_eq_directory ?_ ?_
    · rw [withFile, h.names_eq, List.lookup_cons, hne]
      exact hfree place hplace
    · rw [withFile, h.names_eq]
      exact List.mem_append_left _ (mem_above_iff.mpr hplace)
  rw [contents, find_of_isPlain h hdirectories hnode]

/-- Other paths lead to the file as well. -/
example :
    (empty.withFile "home/sweep.toml" [10]).contents "./home//../home/sweep.toml" = .ok [10] := by
  decide +kernel

/-- A directory that is put in at a plain path is there, unless a file is on the way or there. -/
theorem existsAt_withDirectory (h : IsPlain path)
    (hfree : ∀ place, place <+: parts path → tree.files.lookup place = none) :
    (tree.withDirectory path).existsAt path = true := by
  have hdirectory : ∀ place, place <+: parts path →
      (tree.withDirectory path).node? place = some .directory := by
    intro place hplace
    refine node?_eq_directory (hfree place hplace) ?_
    rw [withDirectory, h.names_eq]
    exact List.mem_append_left _ (mem_above_iff.mpr hplace)
  have hway : ∀ place, place <+: (parts path).dropLast → place ≠ [] →
      (tree.withDirectory path).node? place = some .directory :=
    fun place hplace _ => hdirectory place (hplace.trans (List.dropLast_prefix _))
  rw [existsAt, find_of_isPlain h hway (hdirectory _ List.prefix_rfl)]

end ImageRetention.FileTree
