import Mathlib.Tactic
import ImageRetention.Proofs.Text.Piece
import ImageRetention.Text.Lines

/-!
The lines of a text and the fields of a line, told by what stands between them.

* `lines_append`: a line that is followed by a line end is the first line;
* `Text.LinesOf`, `lines_eq_iff`: the lines of a text are the parts before its line ends, and what
  is left behind the last one;
* `fields_append`: a field that is followed by a blank or by nothing is the first field;
* `Text.FieldsOf`, `fields_eq_iff`: the fields of a text are its parts without blanks, with blanks
  or the ends around them.
-/

namespace ImageRetention.Text

/-! ### Lines -/

lemma lines_cons {c : Char} {s : List Char} (hfeed : c ≠ '\n')
    (hreturn : c = '\r' → s.head? ≠ some '\n') : lines (c :: s) = extendLine c (lines s) := by
  refine lines.eq_4 c s hfeed fun rest hc hs => ?_
  exact hreturn hc (by rw [hs, List.head?_cons])

/-- What stands before a line end is the first line, unless it would give a line feed its carriage
return. -/
lemma lines_append {s tail : List Char} {more : List (List Char)} (hfeed : '\n' ∉ s)
    (hreturn : s.getLast? = some '\r' → tail.head? ≠ some '\n')
    (htail : lines tail = [] :: more) : lines (s ++ tail) = s :: more := by
  induction s with
  | nil => exact htail
  | cons c rest ih =>
      rw [List.mem_cons, not_or] at hfeed
      cases rest with
      | nil =>
          rw [List.singleton_append, lines_cons (Ne.symm hfeed.1) ?_, htail]
          · rfl
          · rintro rfl
            exact hreturn rfl
      | cons d rest =>
          rw [List.getLast?_cons_cons] at hreturn
          rw [List.cons_append, lines_cons (Ne.symm hfeed.1) fun _ hhead => ?_, ih hfeed.2 hreturn]
          · rfl
          · exact hfeed.2 (Option.some.inj hhead ▸ List.mem_cons_self)

lemma lines_append_feed {s : List Char} (hfeed : '\n' ∉ s) (hreturn : s.getLast? ≠ some '\r')
    (rest : List Char) : lines (s ++ '\n' :: rest) = s :: lines rest :=
  lines_append hfeed (fun hlast => absurd hlast hreturn) rfl

lemma lines_append_returnFeed {s : List Char} (hfeed : '\n' ∉ s) (rest : List Char) :
    lines (s ++ '\r' :: '\n' :: rest) = s :: lines rest :=
  lines_append hfeed (fun _ => by simp) rfl

/-- The lines that a text is cut into.  Each but the last one is followed by a line feed, or by a
carriage return and a line feed if there are both; the last one is followed by nothing, and is not
empty. -/
inductive LinesOf : List Char → List (List Char) → Prop
  | none : LinesOf [] []
  | last {line : List Char} (hne : line ≠ []) (hfeed : '\n' ∉ line) : LinesOf line [line]
  | feed {line rest : List Char} {more : List (List Char)} (hfeed : '\n' ∉ line)
      (hreturn : line.getLast? ≠ some '\r') (hrest : LinesOf rest more) :
      LinesOf (line ++ '\n' :: rest) (line :: more)
  | returnFeed {line rest : List Char} {more : List (List Char)} (hfeed : '\n' ∉ line)
      (hrest : LinesOf rest more) : LinesOf (line ++ '\r' :: '\n' :: rest) (line :: more)

lemma linesOf_lines (s : List Char) : LinesOf s (lines s) := by
  -- what stands behind the first line feed is shorter
  induction hlength : s.length using Nat.strong_induction_on generalizing s with
  | _ n ih =>
      by_cases hmem : '\n' ∈ s
      · obtain ⟨first, rest, rfl, hfeed⟩ := List.eq_append_cons_of_mem hmem
        have hshorter : rest.length < n := by
          rw [← hlength, List.length_append, List.length_cons]
          omega
        have hrest : LinesOf rest (lines rest) := ih rest.length hshorter rest rfl
        by_cases hreturn : first.getLast? = some '\r'
        · obtain ⟨line, rfl⟩ := List.getLast?_eq_some_iff.mp hreturn
          rw [List.mem_append, not_or] at hfeed
          rw [List.append_assoc, List.singleton_append, lines_append_returnFeed hfeed.1]
          exact LinesOf.returnFeed hfeed.1 hrest
        · rw [lines_append_feed hfeed hreturn]
          exact LinesOf.feed hfeed hreturn hrest
      · by_cases hne : s = []
        · subst hne
          exact LinesOf.none
        · rw [lines_of_no_newline hne hmem]
          exact LinesOf.last hne hmem

/-- The lines of a text are the parts before its line ends, and what is left behind the last
one. -/
theorem lines_eq_iff {s : List Char} {found : List (List Char)} :
    lines s = found ↔ LinesOf s found := by
  constructor
  · rintro rfl
    exact linesOf_lines s
  · intro h
    induction h with
    | none => rfl
    | last hne hfeed => exact lines_of_no_newline hne hfeed
    | feed hfeed hreturn _ ih => rw [lines_append_feed hfeed hreturn, ih]
    | returnFeed hfeed _ ih => rw [lines_append_returnFeed hfeed, ih]

/-! ### Fields -/

lemma fields_cons_blank {c : Char} (hc : isBlank c = true) (s : List Char) :
    fields (c :: s) = fields s := by
  simp [fields, split, hc]

lemma fields_blanks_append {gap : List Char} (hgap : ∀ c ∈ gap, isBlank c = true)
    (s : List Char) : fields (gap ++ s) = fields s := by
  induction gap with
  | nil => rfl
  | cons c rest ih =>
      rw [List.forall_mem_cons] at hgap
      rw [List.cons_append, fields_cons_blank hgap.1, ih hgap.2]

/-- A text without blanks that is followed by a blank or by nothing is the first field. -/
lemma fields_append {field rest : List Char} (hne : field ≠ [])
    (hfield : ∀ c ∈ field, isBlank c = false) (hrest : ∀ c ∈ rest.head?, isBlank c = true) :
    fields (field ++ rest) = field :: fields rest := by
  have hkept (more : List (List Char)) :
      (field :: more).filter (fun piece => !piece.isEmpty) =
        field :: more.filter fun piece => !piece.isEmpty :=
    List.filter_cons_of_pos (by simpa using hne)
  cases rest with
  | nil =>
      rw [List.append_nil, fields, split_of_forall_not isBlank hfield, hkept]
      rfl
  | cons c more =>
      have hc : isBlank c = true := hrest c rfl
      rw [fields_cons_blank hc, fields, split_append_cons isBlank hfield hc, hkept]
      rfl

/-- The fields that a text is cut into.  Each is a longest part without blanks, and nothing but
blanks is left between them. -/
inductive FieldsOf : List Char → List (List Char) → Prop
  | none {gap : List Char} (hgap : ∀ c ∈ gap, isBlank c = true) : FieldsOf gap []
  | next {gap field rest : List Char} {more : List (List Char)}
      (hgap : ∀ c ∈ gap, isBlank c = true) (hne : field ≠ [])
      (hfield : ∀ c ∈ field, isBlank c = false) (hend : ∀ c ∈ rest.head?, isBlank c = true)
      (hrest : FieldsOf rest more) : FieldsOf (gap ++ (field ++ rest)) (field :: more)

lemma FieldsOf.cons_blank {c : Char} (hc : isBlank c = true) {s : List Char}
    {found : List (List Char)} (h : FieldsOf s found) : FieldsOf (c :: s) found := by
  cases h with
  | none hgap => exact FieldsOf.none (List.forall_mem_cons.mpr ⟨hc, hgap⟩)
  | next hgap hne hfield hend hrest =>
      exact FieldsOf.next (List.forall_mem_cons.mpr ⟨hc, hgap⟩) hne hfield hend hrest

/-- What is not blank starts with a field. -/
lemma exists_field {c : Char} (hc : isBlank c = false) (s : List Char) :
    ∃ field rest, c :: s = field ++ rest ∧ rest.length ≤ s.length ∧ field ≠ [] ∧
      (∀ d ∈ field, isBlank d = false) ∧ ∀ d ∈ rest.head?, isBlank d = true := by
  refine ⟨c :: s.takeWhile (fun d => !isBlank d), s.dropWhile fun d => !isBlank d, ?_,
    (List.dropWhile_suffix _).length_le, List.cons_ne_nil _ _, ?_, fun d hd => ?_⟩
  · rw [List.cons_append, List.takeWhile_append_dropWhile]
  · refine List.forall_mem_cons.mpr ⟨hc, fun d hd => ?_⟩
    simpa using List.all_eq_true.mp List.all_takeWhile d hd
  · have hstop := List.head?_dropWhile_not (fun d => !isBlank d) s
    rw [Option.mem_def.mp hd] at hstop
    simpa using hstop

lemma fieldsOf_fields (s : List Char) : FieldsOf s (fields s) := by
  -- what stands behind a blank or behind a field is shorter
  induction hlength : s.length using Nat.strong_induction_on generalizing s with
  | _ n ih =>
      cases s with
      | nil => exact FieldsOf.none (by simp)
      | cons c s =>
          rw [List.length_cons] at hlength
          cases hc : isBlank c with
          | true =>
              rw [fields_cons_blank hc]
              exact (ih s.length (by omega) s rfl).cons_blank hc
          | false =>
              obtain ⟨field, rest, hs, hshorter, hne, hfield, hend⟩ := exists_field hc s
              have hrest : FieldsOf rest (fields rest) := ih rest.length (by omega) rest rfl
              rw [hs, fields_append hne hfield hend]
              exact FieldsOf.next (List.forall_mem_nil _) hne hfield hend hrest

/-- The fields of a text are its parts without blanks, with blanks or the ends around them. -/
theorem fields_eq_iff {s : List Char} {found : List (List Char)} :
    fields s = found ↔ FieldsOf s found := by
  constructor
  · rintro rfl
    exact fieldsOf_fields s
  · intro h
    induction h with
    | none hgap => simpa [fields, split] using fields_blanks_append hgap []
    | next hgap hne hfield hend _ ih =>
        rw [fields_blanks_append hgap, fields_append hne hfield hend, ih]

end ImageRetention.Text
