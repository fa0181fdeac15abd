/-
Cutting a sequence at separators:

* `split`: the pieces between the elements that satisfy a test, empty pieces included;
* `join`: pieces put together again with a separator between them;
* `join_split`: joining the pieces at the separator gives the sequence back;
* `split_join`: splitting joined pieces gives them back, provided there is at least one
  piece and no piece holds the separator;
* `splitOnce?`: the parts before and after the first separator.
-/

namespace ImageRetention.Text

universe u
variable {α : Type u}

/-! ### Splitting -/

/-- The pieces between the elements that satisfy `p`, in order.  There is always one more
piece than there are separators, so the empty sequence is one empty piece. -/
def split (p : α → Bool) : List α → List (List α)
  | [] => [[]]
  | a :: rest =>
    if p a then [] :: split p rest
    else match split p rest with
      | [] => [[a]]
      | piece :: pieces => (a :: piece) :: pieces

/-- Pieces put together with the separator between neighbours. -/
def join (sep : α) : List (List α) → List α
  | [] => []
  | [piece] => piece
  | piece :: next :: pieces => piece ++ sep :: join sep (next :: pieces)

/-- The parts before and after the first `sep`, if there is one. -/
def splitOnce? [DecidableEq α] (sep : α) : List α → Option (List α × List α)
  | [] => none
  | a :: rest =>
    if a = sep then some ([], rest)
    else (splitOnce? sep rest).map fun parts => (a :: parts.1, parts.2)

/-! ### Laws -/

theorem split_ne_nil (p : α → Bool) (s : List α) : split p s ≠ [] := by
  cases s with
  | nil => simp [split]
  | cons a rest =>
    simp only [split]
    split
    · simp
    · cases split p rest <;> simp

theorem split_cons_of_not (p : α → Bool) {a : α} (h : p a = false) (rest : List α) :
    ∃ piece pieces, split p rest = piece :: pieces ∧
      split p (a :: rest) = (a :: piece) :: pieces := by
  cases hs : split p rest with
  | nil => exact absurd hs (split_ne_nil p rest)
  | cons piece pieces => exact ⟨piece, pieces, rfl, by simp [split, h, hs]⟩

theorem join_cons_of_ne_nil (sep : α) (piece : List α) {pieces : List (List α)}
    (h : pieces ≠ []) : join sep (piece :: pieces) = piece ++ sep :: join sep pieces := by
  cases pieces with
  | nil => exact absurd rfl h
  | cons next rest => rfl

theorem join_cons_cons (sep a : α) (piece : List α) (pieces : List (List α)) :
    join sep ((a :: piece) :: pieces) = a :: join sep (piece :: pieces) := by
  cases pieces <;> rfl

/-- Joining the pieces at the separator gives the sequence back. -/
theorem join_split [DecidableEq α] (sep : α) (s : List α) :
    join sep (split (· == sep) s) = s := by
  induction s with
  | nil => rfl
  | cons a rest ih =>
    cases h : a == sep with
    | true =>
      have ha : a = sep := by simpa using h
      simp only [split, h, if_true]
      rw [join_cons_of_ne_nil _ _ (split_ne_nil _ _), ih, ha, List.nil_append]
    | false =>
      obtain ⟨piece, pieces, hs, hc⟩ := split_cons_of_not (· == sep) h rest
      rw [hc, join_cons_cons, ← hs, ih]

/-- No piece holds a separator. -/
theorem not_of_mem_split (p : α → Bool) (s : List α) :
    ∀ piece ∈ split p s, ∀ a ∈ piece, p a = false := by
  induction s with
  | nil => simp [split]
  | cons a rest ih =>
    cases h : p a with
    | true => simpa [split, h] using ih
    | false =>
      obtain ⟨piece, pieces, hs, hc⟩ := split_cons_of_not p h rest
      rw [hs] at ih
      rw [hc]
      simp only [List.forall_mem_cons] at ih ⊢
      exact ⟨⟨h, ih.1⟩, ih.2⟩

theorem split_of_forall_not (p : α → Bool) {s : List α} (h : ∀ a ∈ s, p a = false) :
    split p s = [s] := by
  induction s with
  | nil => rfl
  | cons a rest ih =>
    simp only [List.forall_mem_cons] at h
    simp [split, h.1, ih h.2]

theorem split_append_cons (p : α → Bool) {s : List α} (h : ∀ a ∈ s, p a = false) {sep : α}
    (hsep : p sep = true) (rest : List α) :
    split p (s ++ sep :: rest) = s :: split p rest := by
  induction s with
  | nil => simp [split, hsep]
  | cons a s ih =>
    simp only [List.forall_mem_cons] at h
    simp [split, h.1, ih h.2]

/-- Splitting joined pieces gives them back: there must be a piece, and none may hold the
separator. -/
theorem split_join [DecidableEq α] (sep : α) {pieces : List (List α)} (hne : pieces ≠ [])
    (h : ∀ piece ∈ pieces, sep ∉ piece) : split (· == sep) (join sep pieces) = pieces := by
  have free : ∀ {piece : List α}, sep ∉ piece → ∀ a ∈ piece, (a == sep) = false := by
    intro piece hp a ha
    simpa using fun hEq : a = sep => hp (hEq ▸ ha)
  induction pieces with
  | nil => exact absurd rfl hne
  | cons piece pieces ih =>
    simp only [List.forall_mem_cons] at h
    cases pieces with
    | nil => exact split_of_forall_not _ (free h.1)
    | cons next pieces =>
      have hrest := ih (by simp) h.2
      rw [join, split_append_cons _ (free h.1) (by simp), hrest]

/-- The parts around the first separator put together give the sequence back. -/
theorem eq_of_splitOnce? [DecidableEq α] {sep : α} {s before after : List α}
    (h : splitOnce? sep s = some (before, after)) :
    s = before ++ sep :: after ∧ sep ∉ before := by
  induction s generalizing before with
  | nil => simp [splitOnce?] at h
  | cons a rest ih =>
    by_cases ha : a = sep
    · simp only [splitOnce?, ha, if_true, Option.some.injEq, Prod.mk.injEq] at h
      obtain ⟨rfl, rfl⟩ := h
      simp [ha]
    · simp only [splitOnce?, ha, if_false, Option.map_eq_some_iff, Prod.mk.injEq] at h
      obtain ⟨parts, hparts, rfl, rfl⟩ := h
      obtain ⟨hrest, hnot⟩ := ih hparts
      exact ⟨by rw [hrest]; rfl, by simp [hnot, Ne.symm ha]⟩

theorem splitOnce?_append_cons [DecidableEq α] {sep : α} {before : List α}
    (h : sep ∉ before) (after : List α) :
    splitOnce? sep (before ++ sep :: after) = some (before, after) := by
  induction before with
  | nil => simp [splitOnce?]
  | cons a rest ih =>
    simp only [List.mem_cons, not_or] at h
    simp [splitOnce?, Ne.symm h.1, ih h.2]

end ImageRetention.Text
