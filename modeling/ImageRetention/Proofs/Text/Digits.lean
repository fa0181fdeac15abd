import Mathlib.Tactic
import ImageRetention.Text.Digits

/-!
Numbers that were printed are read back.

* `IsDigits`: a text of digits alone;
* `isDigits_padded`, `length_padded`, `valueOf_padded`: what the digits of a number with zeros in
  front are;
* `takeDigits?_append`, `takeAllDigits?_append`: digits are taken up to the first character that
  is none.
-/

namespace ImageRetention.Text

/-- A text of digits alone. -/
def IsDigits (s : List Char) : Prop := ∀ c ∈ s, c.isDigit = true

/-- What follows is not one more digit. -/
def EndsDigits (s : List Char) : Prop := ∀ c, s.head? = some c → c.isDigit = false

lemma endsDigits_cons {c : Char} (hc : c.isDigit = false) (s : List Char) : EndsDigits (c :: s) :=
  fun _ hd => Option.some.inj hd ▸ hc

/-! ### Printed numbers -/

lemma isDigits_padded (width n : ℕ) : IsDigits (padded width n) := by
  intro c hc
  rcases List.mem_append.mp hc with hzero | hdigit
  · rw [List.eq_of_mem_replicate hzero]
    rfl
  · exact Nat.isDigit_of_mem_toDigits (by decide) (by decide) hdigit

lemma length_padded {width n : ℕ} (hwidth : 0 < width) (h : n < 10 ^ width) :
    (padded width n).length = width := by
  have hle : (Nat.toDigits 10 n).length ≤ width :=
    (Nat.length_toDigits_le_iff (by decide) hwidth).mpr h
  rw [padded, List.length_append, List.length_replicate]
  omega

lemma padded_ne_nil (width n : ℕ) : padded width n ≠ [] := by
  simp [padded, Nat.toDigits_ne_nil]

lemma valueOf_eq_ofDigitChars (digits : List Char) :
    valueOf digits = Nat.ofDigitChars 10 digits 0 :=
  Nat.ofDigitChars_eq_foldl.symm

/-- The digits of a number stand for it, however many zeros are in front. -/
lemma valueOf_padded (width n : ℕ) : valueOf (padded width n) = n := by
  rw [valueOf_eq_ofDigitChars, padded, Nat.ofDigitChars_append, Nat.ofDigitChars_replicate_zero,
    Nat.mul_zero, Nat.ofDigitChars_ten_toDigits]

/-! ### Taking digits -/

variable {run rest : List Char}

lemma takeWhile_isDigit_append (hrun : IsDigits run) (hrest : EndsDigits rest) :
    (run ++ rest).takeWhile Char.isDigit = run := by
  rw [List.takeWhile_append_of_pos hrun]
  cases rest with
  | nil => rw [List.takeWhile_nil, List.append_nil]
  | cons c rest => simp [hrest c rfl]

lemma takeDigits?_append {most : ℕ} (hrun : IsDigits run) (hne : run ≠ [])
    (hmost : run.length ≤ most) (hrest : EndsDigits rest) :
    takeDigits? most (run ++ rest) = some (valueOf run, rest) := by
  rw [takeDigits?, takeWhile_isDigit_append hrun hrest, List.take_of_length_le hmost]
  simp [hne]

lemma takeAllDigits?_append (hrun : IsDigits run) (hne : run ≠ []) (hrest : EndsDigits rest) :
    takeAllDigits? (run ++ rest) = some (valueOf run, rest) :=
  takeDigits?_append hrun hne (by simp) hrest

end ImageRetention.Text
