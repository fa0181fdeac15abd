import ImageRetention.Text.Split

/-
Blank characters and what is cut at them:

* `isBlank`: the Unicode property White_Space;
* `trimStart`, `trimEnd`, `trim`: text without the blanks at its ends;
* `fields`: the non-empty pieces between blanks.
-/

namespace ImageRetention.Text

/-! ### Blank characters -/

/-- The code points with the Unicode property White_Space, as closed ranges in order. -/
def blankRanges : List (Nat × Nat) :=
  [(0x09, 0x0D), (0x20, 0x20), (0x85, 0x85), (0xA0, 0xA0), (0x1680, 0x1680),
   (0x2000, 0x200A), (0x2028, 0x2029), (0x202F, 0x202F), (0x205F, 0x205F),
   (0x3000, 0x3000)]

/-- Whether a character is a blank: one with the Unicode property White_Space. -/
def isBlank (c : Char) : Bool :=
  blankRanges.any fun range => range.1 ≤ c.toNat && c.toNat ≤ range.2

/-- Every ASCII blank of the core library is a blank. -/
theorem isBlank_of_isWhitespace {c : Char} (h : c.isWhitespace = true) : isBlank c = true := by
  simp only [Char.isWhitespace, Bool.or_eq_true, decide_eq_true_eq] at h
  rcases h with ((rfl | rfl) | rfl) | rfl <;> decide

/-! ### Trimming and fields -/

/-- Text without the blanks at its start. -/
def trimStart (s : List Char) : List Char :=
  s.dropWhile isBlank

/-- Text without the blanks at its end. -/
def trimEnd (s : List Char) : List Char :=
  (s.reverse.dropWhile isBlank).reverse

/-- Text without the blanks at either end. -/
def trim (s : List Char) : List Char :=
  trimEnd (trimStart s)

/-- The non-empty pieces between blanks, in order. -/
def fields (s : List Char) : List (List Char) :=
  (split isBlank s).filter fun piece => !piece.isEmpty

/-- A field is not empty and holds no blank. -/
theorem of_mem_fields {s piece : List Char} (h : piece ∈ fields s) :
    piece ≠ [] ∧ ∀ c ∈ piece, isBlank c = false := by
  simp only [fields, List.mem_filter, Bool.not_eq_true', List.isEmpty_eq_false_iff] at h
  exact ⟨h.2, not_of_mem_split isBlank s piece h.1⟩

/-- What `trimStart` leaves is empty or starts with a character that is no blank. -/
theorem head?_trimStart (s : List Char) {c : Char} (h : (trimStart s).head? = some c) :
    isBlank c = false := by
  have := List.head?_dropWhile_not isBlank s
  rw [← trimStart, h] at this
  exact this

/-- What `trimEnd` leaves is empty or ends with a character that is no blank. -/
theorem getLast?_trimEnd (s : List Char) {c : Char} (h : (trimEnd s).getLast? = some c) :
    isBlank c = false := by
  rw [trimEnd, List.getLast?_reverse] at h
  exact head?_trimStart s.reverse h

end ImageRetention.Text
