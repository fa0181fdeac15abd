import Mathlib.Tactic
import ImageRetention.Text.Utf8

/-!
What is read from bytes that are put together.

* `units_append`: bytes are read apart before each byte that continues no character;
* `decodeLossy_append_ascii`: an ASCII byte at the end is read as itself, whatever precedes it;
* `units_utf8EncodeChar`: a character that is encoded is read back, whatever follows it;
* `decode?_encode`: so is a whole text.

A sequence that breaks off is one unit, which the next first byte ends.  So the bytes before
that byte say the same with and without it.
-/

namespace ImageRetention.Text.Utf8

lemma isTrail_of_isSecond {first b : UInt8} (h : isSecond first b = true) : isTrail b = true := by
  simp only [isSecond, isTrail] at *
  grind

/-- Bytes are read apart before a byte that continues no character. -/
lemma units_append {b : UInt8} (hb : isTrail b = false) (s t : List UInt8) :
    units (s ++ b :: t) = units s ++ units (b :: t) := by
  have hsecond (first : UInt8) : isSecond first b = false := by
    by_contra h
    simp [isTrail_of_isSecond (by simpa using h)] at hb
  -- the cases are the forms of the first unit; `b` can only end it
  fun_induction units s with
  | case1 => rfl
  | case2 | case3 | case4 | case5 | case6 | case7 | case8 | case9 | case10 | case11 | case12 =>
      simp only [List.cons_append] at *
      rw [units.eq_2]
      simp [*]

lemma isTrail_of_ascii {b : UInt8} (hb : b < 0x80) : isTrail b = false := by
  simp only [isTrail]
  grind

/-- An ASCII byte at the end is read as itself, whatever precedes it. -/
theorem decodeLossy_append_ascii {b : UInt8} (hb : b < 0x80) (s : List UInt8) :
    decodeLossy (s ++ [b]) = decodeLossy s ++ [Char.ofNat b.toNat] := by
  rw [decodeLossy, units_append (isTrail_of_ascii hb), units_ascii hb, List.map_append]
  rfl

/-! ### Characters read back -/

lemma toNat_ofNat_of_lt {n : ℕ} (h : n < 256) : (UInt8.ofNat n).toNat = n := by
  rw [UInt8.toNat_ofNat', Nat.mod_eq_of_lt h]

lemma trailCount_eq (b : UInt8) : trailCount b =
    if b.toNat < 0x80 then some 0
    else if b.toNat < 0xC2 then none
    else if b.toNat < 0xE0 then some 1
    else if b.toNat < 0xF0 then some 2
    else if b.toNat < 0xF5 then some 3
    else none := rfl

lemma isTrail_iff {b : UInt8} : isTrail b = true ↔ 0x80 ≤ b.toNat ∧ b.toNat ≤ 0xBF := by
  simp [isTrail, UInt8.le_iff_toNat_le]

lemma isSecond_iff {first b : UInt8} : isSecond first b = true ↔
    (0x80 ≤ b.toNat ∧ b.toNat ≤ 0xBF) ∧
      (first.toNat = 0xE0 → 0xA0 ≤ b.toNat) ∧ (first.toNat = 0xED → b.toNat ≤ 0x9F) ∧
      (first.toNat = 0xF0 → 0x90 ≤ b.toNat) ∧ (first.toNat = 0xF4 → b.toNat ≤ 0x8F) := by
  simp only [isSecond, isTrail, UInt8.le_iff_toNat_le, ← UInt8.toNat_inj]
  grind

lemma units_two {b0 b1 : UInt8} (h0 : trailCount b0 = some 1) (h1 : isSecond b0 b1 = true)
    (rest : List UInt8) : units (b0 :: b1 :: rest) = some (char2 b0 b1) :: units rest := by
  rw [units.eq_2]
  simp [h0, h1]

lemma units_three {b0 b1 b2 : UInt8} (h0 : trailCount b0 = some 2) (h1 : isSecond b0 b1 = true)
    (h2 : isTrail b2 = true) (rest : List UInt8) :
    units (b0 :: b1 :: b2 :: rest) = some (char3 b0 b1 b2) :: units rest := by
  rw [units.eq_2]
  simp [h0, h1, h2]

lemma units_four {b0 b1 b2 b3 : UInt8} (h0 : trailCount b0 = some 3)
    (h1 : isSecond b0 b1 = true) (h2 : isTrail b2 = true) (h3 : isTrail b3 = true)
    (rest : List UInt8) :
    units (b0 :: b1 :: b2 :: b3 :: rest) = some (char4 b0 b1 b2 b3) :: units rest := by
  rw [units.eq_2]
  simp [h0, h1, h2, h3]

section Encoded

variable {v : ℕ} (rest : List UInt8)

lemma units_encoded_one (h : v < 0x80) :
    units (UInt8.ofNat v :: rest) = some (Char.ofNat v) :: units rest := by
  have hascii : UInt8.ofNat v < 0x80 := by
    rw [UInt8.lt_iff_toNat_lt, toNat_ofNat_of_lt (by omega)]
    exact h
  rw [units_ascii hascii, toNat_ofNat_of_lt (by omega)]

lemma units_encoded_two (hleast : 0x80 ≤ v) (hmost : v < 0x800) :
    units (UInt8.ofNat (v / 64 % 32 + 192) :: UInt8.ofNat (v % 64 + 128) :: rest) =
      some (Char.ofNat v) :: units rest := by
  have h0 : (UInt8.ofNat (v / 64 % 32 + 192)).toNat = v / 64 % 32 + 192 :=
    toNat_ofNat_of_lt (by omega)
  have h1 : (UInt8.ofNat (v % 64 + 128)).toNat = v % 64 + 128 := toNat_ofNat_of_lt (by omega)
  rw [units_two]
  · rw [char2, payload, h0, h1]
    congr 4
    omega
  · rw [trailCount_eq, h0, if_neg (by omega), if_neg (by omega), if_pos (by omega)]
  · rw [isSecond_iff, h0, h1]
    omega

lemma units_encoded_three (hleast : 0x800 ≤ v) (hmost : v < 0x10000)
    (hvalid : v < 0xD800 ∨ 0xDFFF < v) :
    units (UInt8.ofNat (v / 4096 % 16 + 224) :: UInt8.ofNat (v / 64 % 64 + 128)
        :: UInt8.ofNat (v % 64 + 128) :: rest) = some (Char.ofNat v) :: units rest := by
  have h0 : (UInt8.ofNat (v / 4096 % 16 + 224)).toNat = v / 4096 % 16 + 224 :=
    toNat_ofNat_of_lt (by omega)
  have h1 : (UInt8.ofNat (v / 64 % 64 + 128)).toNat = v / 64 % 64 + 128 :=
    toNat_ofNat_of_lt (by omega)
  have h2 : (UInt8.ofNat (v % 64 + 128)).toNat = v % 64 + 128 := toNat_ofNat_of_lt (by omega)
  rw [units_three]
  · rw [char3, payload, payload, h0, h1, h2]
    congr 4
    omega
  · rw [trailCount_eq, h0, if_neg (by omega), if_neg (by omega), if_neg (by omega),
      if_pos (by omega)]
  · rw [isSecond_iff, h0, h1]
    omega
  · rw [isTrail_iff, h2]
    omega

lemma units_encoded_four (hleast : 0x10000 ≤ v) (hmost : v < 0x110000) :
    units (UInt8.ofNat (v / 262144 % 8 + 240) :: UInt8.ofNat (v / 4096 % 64 + 128)
        :: UInt8.ofNat (v / 64 % 64 + 128) :: UInt8.ofNat (v % 64 + 128) :: rest) =
      some (Char.ofNat v) :: units rest := by
  have h0 : (UInt8.ofNat (v / 262144 % 8 + 240)).toNat = v / 262144 % 8 + 240 :=
    toNat_ofNat_of_lt (by omega)
  have h1 : (UInt8.ofNat (v / 4096 % 64 + 128)).toNat = v / 4096 % 64 + 128 :=
    toNat_ofNat_of_lt (by omega)
  have h2 : (UInt8.ofNat (v / 64 % 64 + 128)).toNat = v / 64 % 64 + 128 :=
    toNat_ofNat_of_lt (by omega)
  have h3 : (UInt8.ofNat (v % 64 + 128)).toNat = v % 64 + 128 := toNat_ofNat_of_lt (by omega)
  rw [units_four]
  · rw [char4, payload, payload, payload, h0, h1, h2, h3]
    congr 4
    omega
  · rw [trailCount_eq, h0, if_neg (by omega), if_neg (by omega), if_neg (by omega),
      if_neg (by omega), if_pos (by omega)]
  · rw [isSecond_iff, h0, h1]
    omega
  · rw [isTrail_iff, h2]
    omega
  · rw [isTrail_iff, h3]
    omega

/-- A character that is encoded is read back, whatever follows it. -/
lemma units_utf8EncodeChar (c : Char) :
    units (String.utf8EncodeChar c ++ rest) = some c :: units rest := by
  have hvalid : c.val.toNat < 0xD800 ∨ 0xDFFF < c.val.toNat ∧ c.val.toNat < 0x110000 := c.valid
  have hc : Char.ofNat c.val.toNat = c := Char.ofNat_toNat c
  rw [String.utf8EncodeChar.eq_1]
  split_ifs with hone htwo hthree
  · rw [List.singleton_append, units_encoded_one rest (by omega), hc]
  · simp only [List.cons_append, List.nil_append]
    rw [units_encoded_two rest (by omega) (by omega), hc]
  · simp only [List.cons_append, List.nil_append]
    rw [units_encoded_three rest (by omega) (by omega) (by omega), hc]
  · simp only [List.cons_append, List.nil_append]
    rw [units_encoded_four rest (by omega) (by omega), hc]

end Encoded

lemma units_encode (s : List Char) : units (encode s) = s.map some := by
  induction s with
  | nil => rfl
  | cons c rest ih =>
      rw [encode, List.flatMap_cons, units_utf8EncodeChar, ← encode, ih, List.map_cons]

/-- A text that is encoded is read back. -/
theorem decode?_encode (s : List Char) : decode? (encode s) = some s := by
  rw [decode?, units_encode]
  induction s with
  | nil => rfl
  | cons c rest ih =>
      rw [List.map_cons, List.mapM_cons, ih]
      rfl

end ImageRetention.Text.Utf8
