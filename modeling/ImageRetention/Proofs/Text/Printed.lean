import Mathlib.Tactic
import ImageRetention.Proofs.Text.Lines
import ImageRetention.Proofs.Text.Piece

/-!
Reading back what was printed: lines that were ended, and words with blanks between them.

* `Text.IsWord`: a text that is not empty and holds no blank;
* `lines_cons_line`: a line that was ended is read back, up to a carriage return at its end;
* `fields_word_append`: the first word before a blank is the first field;
* `fields_append_blank`: a blank at the end makes no field;
* `trim_of_isWord`: a word has no blanks at its ends.
-/

namespace ImageRetention.Text

/-- A word: a text that is not empty and holds no blank. -/
structure IsWord (word : String) : Prop where
  ne_empty : word ≠ ""
  no_blank : ∀ c ∈ word.toList, isBlank c = false

lemma isWord_iff (word : String) :
    IsWord word ↔ word ≠ "" ∧ (word.toList.all fun c => !isBlank c) = true := by
  simp only [List.all_eq_true, Bool.not_eq_true']
  exact ⟨fun h => ⟨h.ne_empty, h.no_blank⟩, fun h => ⟨h.1, h.2⟩⟩

instance (word : String) : Decidable (IsWord word) := decidable_of_iff _ (isWord_iff word).symm

/-! ### Lines -/

/-- The first of some lines that were ended, and the lines after it.  If it ends in a carriage
return then that is taken for a part of the line end. -/
lemma lines_cons_line {s : List Char} (h : '\n' ∉ s) (t : List Char) :
    ∃ line, lines (s ++ '\n' :: t) = line :: lines t ∧ (s = line ∨ s = line ++ ['\r']) := by
  by_cases hreturn : s.getLast? = some '\r'
  · obtain ⟨line, rfl⟩ := List.getLast?_eq_some_iff.mp hreturn
    rw [List.mem_append, not_or] at h
    refine ⟨line, ?_, Or.inr rfl⟩
    rw [List.append_assoc, List.singleton_append, lines_append_returnFeed h.1]
  · exact ⟨s, lines_append_feed h hreturn t, Or.inl rfl⟩

/-! ### Words -/

lemma IsWord.not_mem {word : String} (h : IsWord word) {c : Char} (hc : isBlank c = true) :
    c ∉ word.toList := fun hmem => by simp [h.no_blank c hmem] at hc

lemma trim_of_isWord {word : String} (h : IsWord word) : trim word.toList = word.toList := by
  have hkeep {s : List Char} (hs : ∀ c ∈ s, isBlank c = false) : s.dropWhile isBlank = s := by
    cases s with
    | nil => rfl
    | cons c rest => exact List.dropWhile_cons_of_neg (by simp [hs c])
  rw [trim, trimStart, hkeep h.no_blank, trimEnd,
    hkeep fun c hc => h.no_blank c (List.mem_reverse.mp hc), List.reverse_reverse]

/-- The first word before a blank is the first field. -/
lemma fields_word_append {word : String} (h : IsWord word) {c : Char} (hc : isBlank c = true)
    (rest : List Char) : fields (word.toList ++ c :: rest) = word.toList :: fields rest := by
  have hne : word.toList ≠ [] := by simpa using h.ne_empty
  rw [fields_append hne h.no_blank (by simp [hc]), fields_cons_blank hc]

/-- A blank at the end makes no field. -/
lemma fields_append_blank {c : Char} (hc : isBlank c = true) (s : List Char) :
    fields (s ++ [c]) = fields s := by
  rw [fields, split_append_of_pos hc, List.filter_append]
  simp [fields, split]

end ImageRetention.Text
