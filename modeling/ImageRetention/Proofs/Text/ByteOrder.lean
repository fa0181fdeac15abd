import Mathlib.Tactic
import ImageRetention.Proofs.Text.Utf8

/-!
The order of texts and the order of their bytes.

* `utf8EncodeChar_append_lt`: the bytes of the lesser one of two characters come first, whatever
  follows them;
* `bytesOf_le_bytesOf_iff`: strings are in the order of their bytes.

No character's bytes begin those of another one, so the first character in which two texts differ
decides in both orders.
-/

namespace ImageRetention.Text.Utf8

lemma ofNat_lt_ofNat_iff {m n : ℕ} (hm : m < 256) (hn : n < 256) :
    UInt8.ofNat m < UInt8.ofNat n ↔ m < n := by
  rw [UInt8.lt_iff_toNat_lt, toNat_ofNat_of_lt hm, toNat_ofNat_of_lt hn]

lemma ofNat_eq_ofNat_iff {m n : ℕ} (hm : m < 256) (hn : n < 256) :
    UInt8.ofNat m = UInt8.ofNat n ↔ m = n := by
  rw [← UInt8.toNat_inj, toNat_ofNat_of_lt hm, toNat_ofNat_of_lt hn]

/-- The bytes of the lesser one of two characters come first, whatever follows. -/
lemma utf8EncodeChar_append_lt {c d : Char} (h : c < d) (s t : List UInt8) :
    String.utf8EncodeChar c ++ s < String.utf8EncodeChar d ++ t := by
  have hlt : c.val.toNat < d.val.toNat := h
  have hvalid : d.val.toNat < 0xD800 ∨ 0xDFFF < d.val.toNat ∧ d.val.toNat < 0x110000 := d.valid
  -- the digits to the base 64 are those of the digits before them
  have hdigits (v : ℕ) : v / 4096 = v / 64 / 64 ∧ v / 262144 = v / 64 / 64 / 64 := by omega
  rw [String.utf8EncodeChar.eq_1, String.utf8EncodeChar.eq_1]
  simp only [hdigits]
  -- a character of more bytes has the greater first byte; among those of as many bytes the
  -- payloads are compared from the first one on
  split_ifs <;>
    simp (disch := omega) only [List.cons_append, List.nil_append, List.cons_lt_cons_iff,
      ofNat_lt_ofNat_iff, ofNat_eq_ofNat_iff] <;>
    omega

lemma utf8EncodeChar_ne_nil (c : Char) : String.utf8EncodeChar c ≠ [] := by
  rw [← List.length_pos_iff, String.length_utf8EncodeChar]
  exact Char.utf8Size_pos c

/-- Texts are in the order of their bytes. -/
lemma encode_lt_encode {s t : List Char} (h : s < t) : encode s < encode t := by
  induction h with
  | @nil c rest =>
      obtain ⟨b, bytes, hbytes⟩ := List.exists_cons_of_ne_nil (utf8EncodeChar_ne_nil c)
      rw [encode, encode, List.flatMap_cons, hbytes]
      exact List.Lex.nil
  | @cons c s t _ ih =>
      simp only [encode, List.flatMap_cons] at ih ⊢
      exact List.append_left_lt ih
  | @rel c s d t hlt =>
      simp only [encode, List.flatMap_cons]
      exact utf8EncodeChar_append_lt hlt _ _

lemma bytesOf_lt_bytesOf_iff {s t : String} : bytesOf s < bytesOf t ↔ s < t := by
  refine ⟨fun h => ?_, fun h => encode_lt_encode h⟩
  by_contra hnot
  by_cases hlt : t < s
  · exact List.lt_asymm h (encode_lt_encode hlt)
  · obtain rfl : s = t := String.le_antisymm (String.not_lt.mp hlt) (String.not_lt.mp hnot)
    exact List.lt_irrefl _ h

/-- Strings are in the order of their bytes. -/
theorem bytesOf_le_bytesOf_iff {s t : String} : bytesOf s ≤ bytesOf t ↔ s ≤ t := by
  rw [← List.not_lt, ← String.not_lt, bytesOf_lt_bytesOf_iff]

end ImageRetention.Text.Utf8
