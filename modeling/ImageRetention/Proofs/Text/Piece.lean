import Mathlib.Tactic
import ImageRetention.Text.Blank
import ImageRetention.Text.Split

/-!
Pieces of a sequence, told by what stands around them.

* `split_append`: what is split at a separator is split before and after it;
* `mem_split_iff`: a piece is a part without separators, between separators or the ends;
* `Text.TrimmedTo`, `trimEnd_eq_iff`: a text without the blanks at its end, told by what was
  cut off.
-/

namespace ImageRetention.Text

universe u
variable {α : Type u} {sep : α}

/-! ### Pieces between separators -/

/-- Some elements before a piece: none, or they end with a separator. -/
def EndsAt (sep : α) (before : List α) : Prop := before = [] ∨ ∃ s, before = s ++ [sep]

/-- Some elements after a piece: none, or they start with a separator. -/
def StartsAt (sep : α) (after : List α) : Prop := after = [] ∨ ∃ s, after = sep :: s

lemma EndsAt.append_cons {before : List α} (h : EndsAt sep before) (s : List α) :
    EndsAt sep (s ++ sep :: before) := by
  obtain rfl | ⟨t, rfl⟩ := h
  · exact Or.inr ⟨s, rfl⟩
  · exact Or.inr ⟨s ++ sep :: t, by simp⟩

/-- What is split at a separator is split before and after it. -/
lemma split_append_of_pos {p : α → Bool} (hsep : p sep = true) (s t : List α) :
    split p (s ++ sep :: t) = split p s ++ split p t := by
  induction s with
  | nil => simp [split, hsep]
  | cons a rest ih =>
      cases ha : p a with
      | true => simp [split, ha, ih]
      | false =>
          obtain ⟨piece, pieces, hsplit, hcons⟩ := split_cons_of_not p ha rest
          simp [split, ha, ih, hsplit]

variable [DecidableEq α]

lemma split_append (s t : List α) :
    split (· == sep) (s ++ sep :: t) = split (· == sep) s ++ split (· == sep) t :=
  split_append_of_pos (by simp) s t

lemma split_eq_singleton {s : List α} (h : sep ∉ s) : split (· == sep) s = [s] := by
  refine split_of_forall_not _ fun a ha => ?_
  simpa using fun heq : a = sep => h (heq ▸ ha)

/-- Every piece has its place. -/
lemma exists_of_mem_split {s piece : List α} (h : piece ∈ split (· == sep) s) :
    ∃ before after, s = before ++ piece ++ after ∧ EndsAt sep before ∧ StartsAt sep after ∧
      sep ∉ piece := by
  have hfree : sep ∉ piece := fun hmem => by
    simpa using not_of_mem_split (· == sep) s piece h sep hmem
  -- the pieces after the first separator are those of a shorter sequence
  induction hlength : s.length using Nat.strong_induction_on generalizing s with
  | _ n ih =>
      by_cases hsep : sep ∈ s
      · obtain ⟨first, rest, rfl, hfirst⟩ := List.eq_append_cons_of_mem hsep
        rw [split_append, split_eq_singleton hfirst, List.singleton_append, List.mem_cons] at h
        rcases h with rfl | h
        · exact ⟨[], sep :: rest, by simp, Or.inl rfl, Or.inr ⟨rest, rfl⟩, hfree⟩
        · have hshorter : rest.length < n := by
            rw [← hlength, List.length_append, List.length_cons]
            omega
          obtain ⟨before, after, rfl, hbefore, hafter, -⟩ := ih rest.length hshorter h rfl
          exact ⟨first ++ sep :: before, after, by simp, hbefore.append_cons first, hafter, hfree⟩
      · rw [split_eq_singleton hsep, List.mem_singleton] at h
        exact ⟨[], [], by simp [h], Or.inl rfl, Or.inl rfl, hfree⟩

/-- A part without separators, between separators or the ends, is a piece. -/
lemma mem_split_of_between {before piece after : List α} (hbefore : EndsAt sep before)
    (hafter : StartsAt sep after) (hfree : sep ∉ piece) :
    piece ∈ split (· == sep) (before ++ piece ++ after) := by
  have hrest : piece ∈ split (· == sep) (piece ++ after) := by
    obtain rfl | ⟨s, rfl⟩ := hafter
    · simp [split_eq_singleton hfree]
    · simp [split_append, split_eq_singleton hfree]
  obtain rfl | ⟨s, rfl⟩ := hbefore
  · simpa using hrest
  · rw [List.append_assoc, List.append_assoc, List.singleton_append, split_append]
    exact List.mem_append_right _ hrest

/-- A piece is a part without separators, between separators or the ends. -/
theorem mem_split_iff {s piece : List α} :
    piece ∈ split (· == sep) s ↔ ∃ before after, s = before ++ piece ++ after ∧
      EndsAt sep before ∧ StartsAt sep after ∧ sep ∉ piece := by
  constructor
  · exact exists_of_mem_split
  · rintro ⟨before, after, rfl, hbefore, hafter, hfree⟩
    exact mem_split_of_between hbefore hafter hfree

/-! ### Trimming -/

/-- A text is what is left of another one without the blanks at its end. -/
structure TrimmedTo (s text : List Char) : Prop where
  cut : ∃ blanks, s = text ++ blanks ∧ ∀ c ∈ blanks, isBlank c = true
  ends : ∀ c, text.getLast? = some c → isBlank c = false

lemma trimEnd_eq_iff {s text : List Char} : trimEnd s = text ↔ TrimmedTo s text := by
  constructor
  · rintro rfl
    refine ⟨⟨(s.reverse.takeWhile isBlank).reverse, ?_, fun c hc => ?_⟩,
      fun c hc => getLast?_trimEnd s hc⟩
    · rw [trimEnd, ← List.reverse_append, List.takeWhile_append_dropWhile, List.reverse_reverse]
    · exact List.all_eq_true.mp List.all_takeWhile c (List.mem_reverse.mp hc)
  · rintro ⟨⟨blanks, rfl, hblanks⟩, hends⟩
    rw [trimEnd, List.reverse_append, List.dropWhile_append_of_pos (by simpa using hblanks)]
    cases hlast : text.getLast? with
    | none => simp [List.getLast?_eq_none_iff.mp hlast]
    | some c =>
        rw [← List.head?_reverse] at hlast
        obtain ⟨rest, hrest⟩ := List.head?_eq_some_iff.mp hlast
        have hblank : isBlank c = false := hends c (by rw [← List.head?_reverse, hlast])
        rw [hrest, List.dropWhile_cons_of_neg (by simp [hblank]), ← hrest, List.reverse_reverse]

end ImageRetention.Text
