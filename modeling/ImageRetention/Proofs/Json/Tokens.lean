import ImageRetention.Proofs.Json.Grammar
import ImageRetention.Proofs.Text.Utf8

/-!
The reader of JSON on what the grammar spells, below values:

* `skipBlanks_eq_cons`: a mark that stands behind blanks is found;
* `exists_parts_of_textAt`, `textOf?_eq`: a string is taken apart at its closing quote, and its
  parts stand for its text;
* `NumberAt.numberValue_eq`: a number is read as it is written;
* `length_lt` and `length_le`: what is left of the bytes is shorter.
-/

namespace ImageRetention.Json

open Text.Utf8 (encode)

variable {s t rest : List UInt8} {b : UInt8}

/-! ### Blanks -/

lemma skipBlanks_cons_of_isBlank (h : IsBlank b) : skipBlanks (b :: s) = skipBlanks s := by
  rw [skipBlanks, List.dropWhile_cons_of_pos (by simpa [IsBlank, or_assoc] using h), ← skipBlanks]

lemma skipBlanks_cons_of_not (h : ¬IsBlank b) : skipBlanks (b :: s) = b :: s := by
  rw [skipBlanks, List.dropWhile_cons_of_neg]
  simpa [IsBlank, or_assoc] using h

lemma skipBlanks_of_blanks (h : Blanks s t) : skipBlanks s = skipBlanks t := by
  obtain ⟨blanks, rfl, hblanks⟩ := h
  induction blanks with
  | nil => rfl
  | cons b blanks ih =>
      rw [List.forall_mem_cons] at hblanks
      rw [List.cons_append, skipBlanks_cons_of_isBlank hblanks.1, ih hblanks.2]

/-- A mark that stands behind blanks is the first byte that is not skipped. -/
lemma skipBlanks_eq_cons (h : Blanks s (b :: rest)) (hb : ¬IsBlank b) :
    skipBlanks s = b :: rest := by
  rw [skipBlanks_of_blanks h, skipBlanks_cons_of_not hb]

lemma Blanks.length_le (h : Blanks s t) : t.length ≤ s.length := by
  obtain ⟨blanks, rfl, -⟩ := h
  simp

/-! ### Strings -/

/-- A byte that stands for itself between quotes. -/
def StandsForItself (b : UInt8) : Prop := 0x20 ≤ b.toNat ∧ b ≠ 0x22 ∧ b ≠ 0x5C

lemma stringParts_cons (hb : StandsForItself b) :
    stringParts (b :: s) = (stringParts s).map fun tail => (.byte b :: tail.1, tail.2) := by
  obtain ⟨hleast, hquote, hbackslash⟩ := hb
  have hkept : (b < 0x20 || b = 0x5C) = false := by
    simp [hbackslash, UInt8.le_iff_toNat_le, hleast]
  rw [stringParts.eq_5 _ _ hquote (by simp [hbackslash]) (by simp [hbackslash])]
  simp [hkept]

lemma stringParts_append {run : List UInt8} (h : ∀ b ∈ run, StandsForItself b) :
    stringParts (run ++ s) =
      (stringParts s).map fun tail => (run.map .byte ++ tail.1, tail.2) := by
  induction run with
  | nil => simp
  | cons b run ih =>
      rw [List.forall_mem_cons] at h
      rw [List.cons_append, stringParts_cons h.1, ih h.2, Option.map_map]
      rfl

lemma bytesOf?_append (run : List UInt8) (parts : List StringPart) :
    bytesOf? (run.map .byte ++ parts) = (bytesOf? parts).map (run ++ ·) := by
  induction run with
  | nil => simp
  | cons b run ih =>
      rw [List.map_cons, List.cons_append, bytesOf?, ih, Option.map_map]
      rfl

lemma standsForItself_ofNat {n : ℕ} (hleast : 0x80 ≤ n) (hmost : n < 256) :
    StandsForItself (UInt8.ofNat n) := by
  have hn : (UInt8.ofNat n).toNat = n := Text.Utf8.toNat_ofNat_of_lt hmost
  have hne {b : UInt8} (hb : b.toNat < 0x80) : UInt8.ofNat n ≠ b := fun heq => by
    rw [heq] at hn
    omega
  exact ⟨by omega, hne (by decide), hne (by decide)⟩

lemma IsPlain.standsForItself_ascii {c : Char} (hc : IsPlain c) (hascii : c.toNat < 0x80) :
    StandsForItself (UInt8.ofNat c.toNat) := by
  have hnat : (UInt8.ofNat c.toNat).toNat = c.toNat := Text.Utf8.toNat_ofNat_of_lt (by omega)
  have hback : Char.ofNat (UInt8.ofNat c.toNat).toNat = c := by rw [hnat, Char.ofNat_toNat]
  refine ⟨by rw [hnat]; exact hc.least, fun heq => ?_, fun heq => ?_⟩
  · rw [heq] at hback
    exact hc.ne_quote hback.symm
  · rw [heq] at hback
    exact hc.ne_backslash hback.symm

/-- The bytes of a character that may stand between quotes stand for themselves. -/
lemma IsPlain.standsForItself {c : Char} (hc : IsPlain c) :
    ∀ b ∈ String.utf8EncodeChar c, StandsForItself b := by
  rw [String.utf8EncodeChar.eq_1]
  split_ifs with hone htwo hthree
  · rw [List.forall_mem_singleton]
    exact hc.standsForItself_ascii (Nat.lt_succ_of_le hone)
  -- all bytes of a longer sequence are beyond ASCII
  all_goals
    simp only [List.forall_mem_cons]
    refine ⟨standsForItself_ofNat (by omega) (by omega),
      standsForItself_ofNat (by omega) (by omega), ?_⟩
  · simp
  · exact ⟨standsForItself_ofNat (by omega) (by omega), by simp⟩
  · exact ⟨standsForItself_ofNat (by omega) (by omega),
      standsForItself_ofNat (by omega) (by omega), by simp⟩

lemma shortEscape?_ascii {letter named : UInt8} (h : shortEscape? letter = some named) :
    named < 0x80 ∧ letter ≠ 0x75 := by
  simp only [shortEscape?] at h
  grind

lemma utf8EncodeChar_ascii (hb : b < 0x80) :
    String.utf8EncodeChar (Char.ofNat b.toNat) = [b] := by
  have hsmall : b.toNat < 0x80 := UInt8.lt_iff_toNat_lt.mp hb
  have hval : (Char.ofNat b.toNat).val.toNat = b.toNat := by
    have hvalid : b.toNat.isValidChar := Or.inl (by omega)
    rw [Char.ofNat, dif_pos hvalid]
    rfl
  rw [String.utf8EncodeChar.eq_1, hval, if_pos (by omega)]
  simp

lemma encode_cons (c : Char) (text : List Char) :
    encode (c :: text) = String.utf8EncodeChar c ++ encode text := List.flatMap_cons

lemma UnitDigits.stringParts_eq {x y z w : UInt8} {u : ℕ} (h : UnitDigits x y z w u) :
    stringParts (0x5C :: 0x75 :: x :: y :: z :: w :: s) =
      (stringParts s).map fun tail => (.unit u :: tail.1, tail.2) := by
  obtain ⟨v1, v2, v3, v4, h1, h2, h3, h4, rfl⟩ := h
  rw [stringParts]
  simp only [h1, h2, h3, h4, Option.bind_eq_bind, Option.bind_some]
  cases stringParts s <;> rfl

lemma isTrailing_of_isLeading {u : ℕ} (h : isLeading u = true) : isTrailing u = false := by
  simp only [isLeading, isTrailing, Bool.and_eq_true, Bool.and_eq_false_iff, decide_eq_true_eq,
    decide_eq_false_iff_not] at *
  omega

/-- A string that is spelled is taken apart up to its closing quote, and its parts stand for the
text. -/
lemma exists_parts_of_textAt {text : List Char} (h : TextAt s text rest) :
    ∃ parts, stringParts s = some (parts, rest) ∧ bytesOf? parts = some (encode text) := by
  induction h with
  | quote rest => exact ⟨[], by rw [stringParts], rfl⟩
  | @plain c s rest text hc h ih =>
      obtain ⟨parts, hparts, hbytes⟩ := ih
      refine ⟨(String.utf8EncodeChar c).map .byte ++ parts, ?_, ?_⟩
      · rw [stringParts_append hc.standsForItself, hparts]
        rfl
      · rw [bytesOf?_append, hbytes]
        rfl
  | @short letter named s rest text hletter h ih =>
      obtain ⟨parts, hparts, hbytes⟩ := ih
      obtain ⟨hascii, hne⟩ := shortEscape?_ascii hletter
      refine ⟨.byte named :: parts, ?_, ?_⟩
      · rw [stringParts.eq_4 _ _ (by simp [hne]), hletter, hparts]
        rfl
      · rw [bytesOf?, hbytes, encode_cons, utf8EncodeChar_ascii hascii]
        rfl
  | @unit a b c d u s rest text hdigits hleading htrailing h ih =>
      obtain ⟨parts, hparts, hbytes⟩ := ih
      refine ⟨.unit u :: parts, by rw [hdigits.stringParts_eq, hparts]; rfl, ?_⟩
      rw [bytesOf?.eq_def]
      simp [htrailing, hleading, hbytes, encode_cons]
  | @pair a b c d a' b' c' d' u v s rest text hdigits hleading hdigits' htrailing h ih =>
      obtain ⟨parts, hparts, hbytes⟩ := ih
      refine ⟨.unit u :: .unit v :: parts, ?_, ?_⟩
      · rw [hdigits.stringParts_eq, hdigits'.stringParts_eq, hparts]
        rfl
      · rw [bytesOf?.eq_def]
        simp [isTrailing_of_isLeading hleading, hleading, htrailing, hbytes, encode_cons]

lemma textOf?_eq {parts : List StringPart} {text : List Char}
    (h : bytesOf? parts = some (encode text)) : textOf? parts = some (String.ofList text) := by
  rw [textOf?, h, Option.bind_eq_bind, Option.bind_some, Text.Utf8.decode?_encode]
  rfl

lemma TextAt.length_lt {text : List Char} (h : TextAt s text rest) : rest.length < s.length := by
  induction h with
  | quote => simp
  | plain =>
    rw [List.length_append]
    omega
  | _ =>
    simp only [List.length_cons]
    omega

/-! ### Numbers -/

lemma DigitsAt.digits_eq {found : List Char} (h : DigitsAt s found rest) :
    digits s = (found, rest) := by
  obtain ⟨⟨run, rfl, rfl, hrun⟩, -, hends⟩ := h
  have hstop : rest.takeWhile isDigit = [] ∧ rest.dropWhile isDigit = rest := by
    cases rest with
    | nil => exact ⟨rfl, rfl⟩
    | cons b rest => simp [hends b rfl]
  rw [digits, List.takeWhile_append_of_pos hrun, List.dropWhile_append_of_pos hrun, hstop.1,
    hstop.2, List.append_nil]

lemma WholeAt.wholeDigits?_eq {found : List Char} (h : WholeAt s found rest) :
    wholeDigits? s = some (found, rest) := by
  rw [wholeDigits?, h.digits_eq]
  have hne := h.ne_nil
  have hleading := h.leading
  split
  · simp_all
  · simp_all
  · simp_all

lemma FractionAt.fractionDigits?_eq {found : List Char} (h : FractionAt s found rest) :
    fractionDigits? s = some (found, rest) := by
  cases h with
  | absent h =>
      rw [fractionDigits?.eq_def]
      split
      · simp at h
      · rfl
  | given h =>
      rw [fractionDigits?, h.digits_eq]
      have hne := h.ne_nil
      split <;> simp_all

lemma exponentDigits?_eq {found : List Char} (h : DigitsAt s found rest) (negative : Bool) :
    exponentDigits? negative s = some (some (negative, found), rest) := by
  rw [exponentDigits?, h.digits_eq]
  have hne := h.ne_nil
  split <;> simp_all

lemma ExponentAt.exponentPart?_eq {found : Option (Bool × List Char)}
    (h : ExponentAt s found rest) : exponentPart? s = some (found, rest) := by
  cases h with
  | absent hsmall hcapital =>
      cases s with
      | nil => rfl
      | cons b s =>
          rw [exponentPart?.eq_def]
          exact if_neg (by simp_all)
  | @given letter s t _ negative digits hletter hsign h =>
      rw [exponentPart?.eq_def]
      refine (if_pos (by simpa using hletter)).trans ?_
      cases hsign with
      | absent hplus hminus =>
          split
          · simp at hplus
          · simp at hminus
          · exact exponentDigits?_eq h false
      | plus => exact exponentDigits?_eq h false
      | minus => exact exponentDigits?_eq h true

lemma NumberAt.numberValue_eq {negative : Bool} {text : NumberText}
    (h : NumberAt negative s text rest) : numberValue negative s = (.number text, some rest) := by
  obtain ⟨hwhole, hfraction, hexponent⟩ := h
  rw [numberValue, numberText?, hwhole.wholeDigits?_eq]
  simp [hfraction.fractionDigits?_eq, hexponent.exponentPart?_eq]

lemma DigitsAt.length_lt {found : List Char} (h : DigitsAt s found rest) :
    rest.length < s.length := by
  obtain ⟨⟨run, rfl, rfl, -⟩, hne, -⟩ := h
  have hrun : 0 < run.length := List.length_pos_iff.mpr (by simpa using hne)
  rw [List.length_append]
  omega

lemma FractionAt.length_le {found : List Char} (h : FractionAt s found rest) :
    rest.length ≤ s.length := by
  cases h with
  | absent => exact le_rfl
  | given h => exact h.length_lt.le.trans (Nat.le_succ _)

lemma SignAt.length_le {negative : Bool} (h : SignAt s negative rest) :
    rest.length ≤ s.length := by
  cases h <;> simp

lemma ExponentAt.length_le {found : Option (Bool × List Char)} (h : ExponentAt s found rest) :
    rest.length ≤ s.length := by
  cases h with
  | absent => exact le_rfl
  | given _ hsign h => exact (h.length_lt.le.trans hsign.length_le).trans (Nat.le_succ _)

lemma NumberAt.length_lt {negative : Bool} {text : NumberText}
    (h : NumberAt negative s text rest) : rest.length < s.length := by
  obtain ⟨hwhole, hfraction, hexponent⟩ := h
  exact (hexponent.length_le.trans hfraction.length_le).trans_lt hwhole.length_lt

lemma NumberAt.exists_digit {negative : Bool} {text : NumberText}
    (h : NumberAt negative s text rest) : ∃ b t, s = b :: t ∧ isDigit b = true := by
  obtain ⟨hwhole, -, -⟩ := h
  obtain ⟨run, rfl, hrun, hdigits⟩ := hwhole.spelled
  cases run with
  | nil => exact absurd hrun.symm hwhole.ne_nil
  | cons b run => exact ⟨b, _, rfl, hdigits b List.mem_cons_self⟩

/-! ### Names of members -/

lemma NameAt.length_lt {name : List Char} (h : NameAt s name rest) : rest.length < s.length := by
  obtain ⟨t, u, hquote, htext, hcolon⟩ := h
  have h1 := hquote.length_le
  have h2 := htext.length_lt
  have h3 := hcolon.length_le
  rw [List.length_cons] at h1 h3
  omega

lemma NameAt.ne_close {name : List Char} (h : NameAt s name rest) (t : List UInt8) :
    skipBlanks s ≠ 0x7D :: t := by
  obtain ⟨u, v, hquote, -, -⟩ := h
  rw [skipBlanks_eq_cons hquote (by decide)]
  exact fun heq => absurd (List.cons.inj heq).1 (by decide)

end ImageRetention.Json
