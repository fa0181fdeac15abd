import ImageRetention.Json.Printer
import ImageRetention.Proofs.Json.Tokens

/-!
What is printed as JSON spells the value that is meant.

* `textAt_quote`: the characters between quotes spell the text, whatever characters it holds;
* `Writes`: a printed text spells a value wherever it stands;
* `writes_quote`, `writes_arrayText`, `writes_objectText`: one for each kind of value that is
  printed;
* `Writes.spells`: a whole text.
-/

namespace ImageRetention.Json

open Text.Utf8 (encode)

variable {s rest : List UInt8} {text : List Char}

lemma encode_append (s t : List Char) : encode (s ++ t) = encode s ++ encode t :=
  List.flatMap_append

/-! ### Strings -/

/-- The four digits of a control character name it. -/
lemma exists_unitDigits_fourDigits {n : ℕ} (hn : n < 0x20) :
    ∃ a b c d, encode (fourDigits n) = [a, b, c, d] ∧ UnitDigits a b c d n := by
  have hdigits : ∀ n < 0x20, ∃ c ∈ [0x30, 0x31],
      ∃ d ∈ [0x30, 0x31, 0x32, 0x33, 0x34, 0x35, 0x36, 0x37, 0x38, 0x39, 0x61, 0x62, 0x63, 0x64,
        0x65, 0x66],
      encode (fourDigits n) = [0x30, 0x30, c, d] ∧ hexValue? c = some (n / 16) ∧
        hexValue? d = some (n % 16) := by
    decide
  obtain ⟨c, -, d, -, hencode, hc, hd⟩ := hdigits n hn
  exact ⟨0x30, 0x30, c, d, hencode, 0, 0, n / 16, n % 16, rfl, rfl, hc, hd, by omega⟩

lemma textAt_short {c letter : Char} (named : UInt8)
    (hletter : encode ['\\', letter] = [0x5C, UInt8.ofNat letter.toNat])
    (hnamed : shortEscape? (UInt8.ofNat letter.toNat) = some named)
    (hc : Char.ofNat named.toNat = c) (h : TextAt s text rest) :
    TextAt (encode ['\\', letter] ++ s) (c :: text) rest := by
  rw [hletter, ← hc]
  exact .short hnamed h

/-- A character between quotes stands for itself. -/
lemma textAt_quoteChar (c : Char) (h : TextAt s text rest) :
    TextAt (encode (quoteChar c) ++ s) (c :: text) rest := by
  unfold quoteChar
  split
  case h_1 => exact textAt_short 0x22 (by decide) (by decide) (by decide) h
  case h_2 => exact textAt_short 0x5C (by decide) (by decide) (by decide) h
  case h_3 => exact textAt_short 0x0A (by decide) (by decide) (by decide) h
  case h_4 => exact textAt_short 0x0D (by decide) (by decide) (by decide) h
  case h_5 => exact textAt_short 0x09 (by decide) (by decide) (by decide) h
  case h_6 => exact textAt_short 0x08 (by decide) (by decide) (by decide) h
  case h_7 => exact textAt_short 0x0C (by decide) (by decide) (by decide) h
  case h_8 hquote hbackslash _ _ _ _ _ =>
    split
    case isTrue hcontrol =>
      obtain ⟨a, b, d, e, hencode, hdigits⟩ := exists_unitDigits_fourDigits hcontrol
      have hc : Char.ofNat c.toNat = c := Char.ofNat_toNat c
      rw [encode_cons, encode_cons, hencode]
      refine hc ▸ TextAt.unit hdigits ?_ ?_ h
      all_goals
        simp [isLeading, isTrailing]
        omega
    case isFalse hplain =>
      rw [encode_cons]
      simp only [encode, List.flatMap_nil, List.append_nil]
      exact .plain ⟨by omega, hquote, hbackslash⟩ h

/-- The characters between quotes spell the text. -/
lemma textAt_quote (text : List Char) (rest : List UInt8) :
    TextAt (encode (text.flatMap quoteChar) ++ 0x22 :: rest) text rest := by
  induction text with
  | nil => exact .quote rest
  | cons c text ih =>
      rw [List.flatMap_cons, encode_append, List.append_assoc]
      exact textAt_quoteChar c ih

lemma encode_quote (text : String) :
    encode (quote text) ++ rest =
      0x22 :: (encode (text.toList.flatMap quoteChar) ++ 0x22 :: rest) := by
  rw [quote, List.cons_append, encode_cons, encode_append, List.append_assoc, List.append_assoc]
  rfl

/-! ### Values -/

/-- A printed text spells a value wherever it stands. -/
def Writes (text : List Char) (value : Json) : Prop :=
  ∀ rest, ValueAt (encode text ++ rest) value rest

lemma Writes.spells {value : Json} (h : Writes text value) : Spells (encode text) value := by
  refine ⟨[], ?_, [], rfl, by simp⟩
  have hvalue := h []
  rwa [List.append_nil] at hvalue

lemma blanks_refl (s : List UInt8) : Blanks s s := ⟨[], rfl, by simp⟩

lemma writes_null : Writes "null".toList .null := fun rest => .null rest

lemma writes_quote (text : String) : Writes (quote text) (.string (some text)) := by
  intro rest
  have htext := ValueAt.string (textAt_quote text.toList rest)
  rwa [String.ofList_toList, ← encode_quote] at htext

lemma encode_join_cons (first next : List Char) (more : List (List Char)) :
    encode (Text.join ',' (first :: next :: more)) ++ rest =
      encode first ++ 0x2C :: (encode (Text.join ',' (next :: more)) ++ rest) := by
  rw [Text.join, encode_append, encode_cons, List.append_assoc]
  rfl

lemma itemsAt_join {item : List Char} {items : List (List Char)} {value : Json}
    {values : List Json} (hitem : Writes item value) (hitems : List.Forall₂ Writes items values)
    (rest : List UInt8) :
    ItemsAt (encode (Text.join ',' (item :: items)) ++ 0x5D :: rest) (value :: values) rest := by
  induction hitems generalizing item value with
  | nil => exact .last (hitem _) (blanks_refl _)
  | cons hnext _ ih =>
      rw [encode_join_cons]
      exact .next (hitem _) (blanks_refl _) (ih hnext)

/-- An array of printed items spells the array of what they spell. -/
lemma writes_arrayText {items : List (List Char)} {values : List Json}
    (h : List.Forall₂ Writes items values) : Writes (arrayText items) (.array values true) := by
  intro rest
  rw [arrayText, List.cons_append, encode_cons, encode_append, List.append_assoc,
    List.append_assoc]
  cases h with
  | nil => exact .emptyArray (blanks_refl _)
  | cons hitem hitems => exact .array (itemsAt_join hitem hitems rest)

/-- A printed member spells a member. -/
def WritesMember (printed : String × List Char) (member : String × Json) : Prop :=
  printed.1 = member.1 ∧ Writes printed.2 member.2

lemma nameAt_memberText (name : String) (value : List Char) :
    NameAt (encode (memberText name value) ++ rest) name.toList (encode value ++ rest) := by
  refine ⟨_, _, ?_, textAt_quote name.toList (0x3A :: (encode value ++ rest)), blanks_refl _⟩
  rw [memberText, encode_append, encode_cons, List.append_assoc, encode_quote]
  exact blanks_refl _

lemma membersAt_join {first : String × List Char} {more : List (String × List Char)}
    {member : String × Json} {members : List (String × Json)} (hfirst : WritesMember first member)
    (hmore : List.Forall₂ WritesMember more members) (rest : List UInt8) :
    MembersAt (encode (Text.join ',' ((first :: more).map fun printed =>
      memberText printed.1 printed.2)) ++ 0x7D :: rest) (member :: members) rest := by
  have hname {printed : String × List Char} {member : String × Json}
      (h : WritesMember printed member) (rest : List UInt8) :
      NameAt (encode (memberText printed.1 printed.2) ++ rest) member.1.toList
        (encode printed.2 ++ rest) := h.1 ▸ nameAt_memberText printed.1 printed.2
  have hnamed {s : List UInt8} {member : String × Json} {members : List (String × Json)}
      (h : MembersAt s ((String.ofList member.1.toList, member.2) :: members) rest) :
      MembersAt s (member :: members) rest := by
    rwa [String.ofList_toList] at h
  induction hmore generalizing first member with
  | nil => exact hnamed (.last (hname hfirst _) (hfirst.2 _) (blanks_refl _))
  | cons hnext _ ih =>
      rw [List.map_cons, List.map_cons, encode_join_cons]
      exact hnamed (.next (hname hfirst _) (hfirst.2 _) (blanks_refl _) (ih hnext))

/-- An object of printed members spells the object of what they spell. -/
lemma writes_objectText {printed : List (String × List Char)} {members : List (String × Json)}
    (h : List.Forall₂ WritesMember printed members) :
    Writes (objectText printed) (record members) := by
  intro rest
  rw [objectText, List.cons_append, encode_cons, encode_append, List.append_assoc,
    List.append_assoc]
  cases h with
  | nil => exact .emptyObject (blanks_refl _)
  | cons hmember hmembers => exact .object (membersAt_join hmember hmembers rest)

end ImageRetention.Json
