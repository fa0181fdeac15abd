import Mathlib.Tactic
import ImageRetention.History.CommitList
import ImageRetention.History.TreeListing
import ImageRetention.Proofs.FirstFault
import ImageRetention.Proofs.Text.Lines

/-!
What commit lists and tree listings mean, line by line.

* `CommitList.mem_commits_iff`: a commit is named by a line that is not blank;
* `TreeListing.objectsOf_eq_readItems`: lines are read up to the first one with less than three
  fields, which is the fault; without one, they give all that they name;
* `TreeListing.objects_of_lines`: just the well-formed listings are read, told by the text between
  line ends and between blanks.
-/

namespace ImageRetention

/-! ### Commit lists -/

/-- A line names a commit if the commit is what is left of it without blanks at its ends. -/
def CommitList.Names (line : List Char) (commit : CommitId) : Prop :=
  Text.trim line ≠ [] ∧ Text.trim line = commit.text.toList

lemma CommitList.mem_commits_iff {text : String} {commit : CommitId} :
    commit ∈ commits text ↔ ∃ line ∈ Text.lines text.toList, Names line commit := by
  simp only [commits, List.mem_map, List.mem_filter, Names]
  constructor
  · rintro ⟨name, ⟨⟨line, hline, rfl⟩, hne⟩, rfl⟩
    exact ⟨line, hline, by simpa using hne, by simp⟩
  · rintro ⟨line, hline, hne, hname⟩
    exact ⟨Text.trim line, ⟨⟨line, hline, rfl⟩, by simpa using hne⟩, by simp [hname]⟩

namespace TreeListing

/-! ### Tree listings -/

/-- A line names a revision of a file by its second and third field. -/
def Names (line : List Char) (object : ObjectId) : Prop :=
  ∃ mode more, Text.fields line = mode :: "blob".toList :: object.text.toList :: more

lemma kindAndName?_eq_some_iff {line kind name : List Char} :
    kindAndName? line = some (kind, name) ↔
      ∃ mode more, Text.fields line = mode :: kind :: name :: more := by
  rw [kindAndName?]
  split <;> simp_all

lemma kindAndName?_eq_none_iff {line : List Char} :
    kindAndName? line = none ↔ (Text.fields line).length < 3 := by
  rw [kindAndName?]
  split
  · rename_i hfields
    simp [hfields]
  · rename_i hfields
    match hline : Text.fields line with
    | [] | [_] | [_, _] => simp
    | mode :: kind :: name :: more => exact absurd hline (hfields mode kind name more)

lemma name_eq_iff {name : List Char} {object : ObjectId} :
    name = object.text.toList ↔ object = ⟨String.ofList name⟩ := by
  rw [ObjectId.mk.injEq, ← String.toList_inj, String.toList_ofList, eq_comm]

/-- The object that a line names: its third field, if its second one is the type of files. -/
def objectIn? (line : List Char) : Option ObjectId :=
  if (Text.fields line)[1]? = some fileType then
    (Text.fields line)[2]?.map fun name => ⟨String.ofList name⟩
  else none

lemma objectIn?_eq_some_iff {line : List Char} {object : ObjectId} :
    objectIn? line = some object ↔ Names line object := by
  rw [objectIn?, Names, fileType]
  match hline : Text.fields line with
  | [] | [_] | [_, _] => simp
  | mode :: kind :: name :: more => simp [name_eq_iff, eq_comm]

/-- A line is short if it has less than three fields. -/
def Short (line : List Char) : Prop := (Text.fields line).length < 3

instance : DecidablePred Short := fun line =>
  inferInstanceAs (Decidable ((Text.fields line).length < 3))

/-- The fault of a line: that it is short. -/
def fault? (line : List Char) : Option Cause :=
  if Short line then some (.badTreeLine (String.ofList line)) else none

lemma fault?_eq_none_iff {line : List Char} : fault? line = none ↔ ¬Short line := by
  simp [fault?]

lemma fault?_eq_some_iff {line : List Char} {cause : Cause} :
    fault? line = some cause ↔ Short line ∧ cause = .badTreeLine (String.ofList line) := by
  rw [fault?]
  split <;> simp_all [eq_comm]

/-- Lines are read up to the first short one, which is the fault; without one, they give all that
they name. -/
theorem objectsOf_eq_readItems (lines : List (List Char)) :
    objectsOf lines = readItems fault? objectIn? lines := by
  induction lines with
  | nil => rfl
  | cons line rest ih =>
      rw [objectsOf, readItems_cons, ← ih]
      cases hparts : kindAndName? line with
      | none =>
          have hshort : Short line := kindAndName?_eq_none_iff.mp hparts
          rw [fault?_eq_some_iff.mpr ⟨hshort, rfl⟩]
      | some parts =>
          obtain ⟨kind, name⟩ := parts
          obtain ⟨mode, more, hfields⟩ := kindAndName?_eq_some_iff.mp hparts
          have hlong : ¬Short line := by
            simp [Short, hfields]
          rw [fault?_eq_none_iff.mpr hlong]
          cases objectsOf rest with
          | error cause => rfl
          | ok found =>
              by_cases hkind : kind = fileType <;>
                simp [objectIn?, hfields, hkind, bind, Except.bind, Except.map]

lemma objectsOf_eq_ok_iff {lines : List (List Char)} {found : List ObjectId} :
    objectsOf lines = .ok found ↔
      (∀ line ∈ lines, ¬Short line) ∧ found = lines.filterMap objectIn? := by
  simp only [objectsOf_eq_readItems, readItems_eq_ok_iff, fault?_eq_none_iff]

lemma objectsOf_eq_error_iff {lines : List (List Char)} {cause : Cause} :
    objectsOf lines = .error cause ↔ ∃ before line after, lines = before ++ line :: after ∧
      (∀ earlier ∈ before, ¬Short earlier) ∧ Short line ∧
        cause = .badTreeLine (String.ofList line) := by
  simp only [objectsOf_eq_readItems, readItems_eq_error_iff, fault?_eq_none_iff,
    fault?_eq_some_iff]

/-- If a listing can be read then all its lines have three fields, and the objects are those
that a line names. -/
lemma objectsOf_eq_ok {lines : List (List Char)} {found : List ObjectId}
    (h : objectsOf lines = .ok found) :
    (∀ line ∈ lines, 3 ≤ (Text.fields line).length) ∧
      ∀ object, object ∈ found ↔ ∃ line ∈ lines, Names line object := by
  obtain ⟨hlong, rfl⟩ := objectsOf_eq_ok_iff.mp h
  refine ⟨fun line hline => Nat.le_of_not_lt (hlong line hline), fun object => ?_⟩
  simp only [List.mem_filterMap, objectIn?_eq_some_iff]

/-- If a listing cannot be read then one of its lines has less than three fields, and is
named. -/
lemma objectsOf_eq_error {lines : List (List Char)} {cause : Cause}
    (h : objectsOf lines = .error cause) :
    ∃ line ∈ lines, (Text.fields line).length < 3 ∧
      cause = .badTreeLine (String.ofList line) := by
  obtain ⟨before, line, after, rfl, -, hshort, hcause⟩ := objectsOf_eq_error_iff.mp h
  exact ⟨line, by simp, hshort, hcause⟩

/-! ### Whole listings -/

/-- A listing is closed if it is empty or if its last line was ended. -/
def Closed (listing : String) : Prop := listing = "" ∨ ∃ text, listing = text ++ "\n"

lemma lines_append_of_closed {first : String} (h : Closed first) (second : String) :
    Text.lines (first ++ second).toList =
      Text.lines first.toList ++ Text.lines second.toList := by
  rcases h with rfl | ⟨text, rfl⟩
  · simp [Text.lines]
  · have hfeed : ("\n" : String).toList = ['\n'] := rfl
    rw [String.toList_append, String.toList_append, hfeed, List.append_assoc,
      List.singleton_append, Text.lines_append_newline]

/-- What follows a closed listing is read as if it stood alone. -/
lemma objects_append {first : String} (h : Closed first) (second : String) :
    objects (first ++ second) =
      (do
        let found ← objects first
        let more ← objects second
        .ok (found ++ more)) := by
  simp only [objects, lines_append_of_closed h, objectsOf_eq_readItems, readItems_append]

lemma objects_append_eq_error_iff {first : String} (h : Closed first) (second : String) :
    (∃ cause, objects (first ++ second) = .error cause) ↔
      (∃ cause, objects first = .error cause) ∨ ∃ cause, objects second = .error cause := by
  rw [objects_append h]
  cases objects first with
  | error cause => simp [bind, Except.bind]
  | ok found => cases objects second <;> simp [bind, Except.bind]

/-- Just the well-formed listings are read.  The lines of a listing are what stands before its
line ends and behind the last one, and the fields of a line are its parts between blanks.  If no
line is short then the objects are the third fields of the lines with the type of files, in
order; else the first short line is the fault, whatever follows it.  So a listing that is closed
can be read apart from what follows it, and the two fail just if one of them does. -/
theorem objects_of_lines (listing : String) :
    (∀ lines, Text.lines listing.toList = lines ↔ Text.LinesOf listing.toList lines) ∧
      (∀ line fields, Text.fields line = fields ↔ Text.FieldsOf line fields) ∧
      (∀ found, objects listing = .ok found ↔
        (∀ line ∈ Text.lines listing.toList, ¬Short line) ∧
          found = (Text.lines listing.toList).filterMap objectIn?) ∧
      (∀ cause, objects listing = .error cause ↔ ∃ before line after,
        Text.lines listing.toList = before ++ line :: after ∧
          (∀ earlier ∈ before, ¬Short earlier) ∧ Short line ∧
            cause = .badTreeLine (String.ofList line)) ∧
      ∀ more, Closed listing →
        objects (listing ++ more) =
            (do
              let first ← objects listing
              let second ← objects more
              .ok (first ++ second)) ∧
          ((∃ cause, objects (listing ++ more) = .error cause) ↔
            (∃ cause, objects listing = .error cause) ∨
              ∃ cause, objects more = .error cause) := by
  refine ⟨fun lines => Text.lines_eq_iff, fun line fields => Text.fields_eq_iff,
    fun found => objectsOf_eq_ok_iff, fun cause => objectsOf_eq_error_iff,
    fun more hclosed => ⟨objects_append hclosed more, ?_⟩⟩
  exact objects_append_eq_error_iff hclosed more

/-- The same file in two listings, of which the first is closed. -/
theorem objects_of_lines_twice :
    Closed "100644 blob a\tx\r\n040000 tree b\ty\n" ∧
      objects ("100644 blob a\tx\r\n040000 tree b\ty\n" ++ " 100755\u2003blob a\tz") =
        .ok [⟨"a"⟩, ⟨"a"⟩] := by
  have hclosed : Closed "100644 blob a\tx\r\n040000 tree b\ty\n" :=
    Or.inr ⟨"100644 blob a\tx\r\n040000 tree b\ty", rfl⟩
  obtain ⟨-, -, -, -, happend⟩ := objects_of_lines "100644 blob a\tx\r\n040000 tree b\ty\n"
  refine ⟨hclosed, ?_⟩
  rw [(happend " 100755\u2003blob a\tz" hclosed).1]
  decide +kernel

end TreeListing

end ImageRetention
