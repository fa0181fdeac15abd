/-
The lines of a text:

* `lines`: the lines, each without its line feed and without a carriage return directly
  before that line feed; a final line feed starts no further line;
* `lines_append_newline`: text that ends in a line feed has the lines before it and then
  those after it.
-/

namespace ImageRetention.Text

/-- Puts a character in front of the first line, which it starts if there is none. -/
def extendLine (c : Char) : List (List Char) → List (List Char)
  | [] => [[c]]
  | line :: rest => (c :: line) :: rest

/-- The lines of a text.  A line ends at a line feed, and a carriage return directly before
it belongs to the line end; the last line may lack the line feed, and then keeps all it has. -/
def lines : List Char → List (List Char)
  | [] => []
  | '\n' :: rest => [] :: lines rest
  | '\r' :: '\n' :: rest => [] :: lines rest
  | c :: rest => extendLine c (lines rest)

theorem extendLine_ne_nil (c : Char) (rest : List (List Char)) : extendLine c rest ≠ [] := by
  cases rest <;> simp [extendLine]

theorem lines_cons_ne_nil (c : Char) (s : List Char) : lines (c :: s) ≠ [] := by
  rw [lines.eq_def]
  split <;> simp_all [extendLine_ne_nil]

theorem lines_of_no_newline {s : List Char} (hne : s ≠ []) (h : '\n' ∉ s) :
    lines s = [s] := by
  fun_induction lines s with
  | case1 => exact absurd rfl hne
  | case2 => simp at h
  | case3 => simp at h
  | case4 c rest _ _ ih =>
    cases rest with
    | nil => rfl
    | cons d rest =>
      rw [ih (by simp) (by simp_all)]
      rfl

/-- Lines after a line feed are lines of the rest alone. -/
theorem lines_append_newline (s t : List Char) :
    lines (s ++ '\n' :: t) = lines (s ++ ['\n']) ++ lines t := by
  fun_induction lines s with
  | case1 => simp [lines]
  | case2 rest ih => simpa [lines] using ih
  | case3 rest ih => simpa [lines] using ih
  | case4 c rest hn hr ih =>
    cases rest with
    | nil =>
      by_cases hc : c = '\r'
      · subst hc
        simp [lines]
      · simp only [List.cons_append, List.nil_append]
        rw [lines.eq_4 c ('\n' :: t) (by simpa using hn) (by simp [hc]),
          lines.eq_4 c ['\n'] (by simpa using hn) (by simp [hc])]
        simp [lines, extendLine]
    | cons d rest =>
      have step (u : List Char) :
          lines (c :: d :: (rest ++ u)) = extendLine c (lines (d :: (rest ++ u))) := by
        rw [lines.eq_4 c _ (by simpa using hn)]
        intro r hcr hcons
        injection hcons with hd _
        exact hr rest hcr (by rw [hd])
      simp only [List.cons_append] at ih ⊢
      rw [step, step, ih]
      cases hl : lines (d :: (rest ++ ['\n'])) with
      | nil => exact absurd hl (lines_cons_ne_nil _ _)
      | cons line more => rfl

end ImageRetention.Text
