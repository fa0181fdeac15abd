import Mathlib.Data.List.DropRight
import ImageRetention.Proofs.Json.Tokens

/-!
A text that the grammar spells is read as the value that it spells.

* `ReadsValue`, `ReadsItems`, `ReadsMembers`: what reading gives on so many bytes, whatever
  number of steps it may take beyond twice as many;
* `readsValue_of_valueAt`: every value that is spelled is read so;
* `Document.ofBytes_of_spells`: and a whole text to its end;
* `isSound_of_spells`: nothing in it is a fault.
-/

namespace ImageRetention.Json

variable {s t rest : List UInt8} {b : UInt8}

/-! ### Blanks before what is read -/

lemma readValue_congr (h : skipBlanks s = skipBlanks t) (fuel : ℕ) :
    readValue fuel s = readValue fuel t := by
  cases fuel with
  | zero => rfl
  | succ fuel => rw [readValue, readValue, h]

lemma readItems_congr (h : skipBlanks s = skipBlanks t) (fuel : ℕ) :
    readItems fuel s = readItems fuel t := by
  cases fuel with
  | zero => rfl
  | succ fuel => rw [readItems, readItems, readValue_congr h]

lemma readMembers_congr (h : skipBlanks s = skipBlanks t) (fuel : ℕ) :
    readMembers fuel s = readMembers fuel t := by
  cases fuel with
  | zero => rfl
  | succ fuel => rw [readMembers, readMembers, h]

lemma skipBlanks_skipBlanks (s : List UInt8) : skipBlanks (skipBlanks s) = skipBlanks s :=
  List.dropWhile_idempotent _ s

/-! ### What reading gives -/

/-- A value is read with so many steps, and is not taken for the end of an array. -/
structure ReadsValue (s : List UInt8) (value : Json) (rest : List UInt8) : Prop where
  shorter : rest.length < s.length
  ne_close : ∀ t, skipBlanks s ≠ 0x5D :: t
  reads : ∀ fuel, 2 * s.length < fuel → readValue fuel s = (value, some rest)

/-- So are the items of an array, up to its closing bracket. -/
structure ReadsItems (s : List UInt8) (items : List Json) (rest : List UInt8) : Prop where
  shorter : rest.length < s.length
  ne_close : ∀ t, skipBlanks s ≠ 0x5D :: t
  reads : ∀ fuel, 2 * s.length + 1 < fuel → readItems fuel s = (items, some rest)

/-- So are the members of an object, up to its closing brace. -/
structure ReadsMembers (s : List UInt8) (members : List (String × Json)) (rest : List UInt8) :
    Prop where
  shorter : rest.length < s.length
  ne_close : ∀ t, skipBlanks s ≠ 0x7D :: t
  reads : ∀ fuel, 2 * s.length + 1 < fuel →
    readMembers fuel s = (members.map fun member => (some member.1, member.2), some rest)

/-- The first byte of a value decides how it is read. -/
lemma ReadsValue.of_first {first : UInt8} {value : Json} (hblank : ¬IsBlank first)
    (hclose : first ≠ 0x5D) (hshorter : rest.length < s.length + 1)
    (h : ∀ fuel, 2 * s.length + 1 < fuel →
      readValue (fuel + 1) (first :: s) = (value, some rest)) :
    ReadsValue (first :: s) value rest := by
  refine ⟨hshorter, fun t ht => ?_, fun fuel hfuel => ?_⟩
  · rw [skipBlanks_cons_of_not hblank] at ht
    exact hclose (List.cons.inj ht).1
  · obtain ⟨fuel, rfl⟩ := Nat.exists_eq_add_one_of_ne_zero (Nat.ne_zero_of_lt hfuel)
    rw [List.length_cons] at hfuel
    exact h fuel (by omega)

lemma ReadsValue.blank {value : Json} (hb : IsBlank b) (h : ReadsValue s value rest) :
    ReadsValue (b :: s) value rest := by
  have hskip : skipBlanks (b :: s) = skipBlanks s := skipBlanks_cons_of_isBlank hb
  refine ⟨h.shorter.trans (Nat.lt_succ_self _), fun t => hskip ▸ h.ne_close t,
    fun fuel hfuel => ?_⟩
  rw [List.length_cons] at hfuel
  rw [readValue_congr hskip, h.reads fuel (by omega)]

/-! ### Scalars -/

lemma readsValue_null : ReadsValue (0x6E :: 0x75 :: 0x6C :: 0x6C :: rest) .null rest := by
  refine .of_first (by decide) (by decide) (by simp; omega) fun fuel _ => ?_
  rw [readValue, skipBlanks_cons_of_not (by decide)]
  rfl

lemma readsValue_yes : ReadsValue (0x74 :: 0x72 :: 0x75 :: 0x65 :: rest) (.bool true) rest := by
  refine .of_first (by decide) (by decide) (by simp; omega) fun fuel _ => ?_
  rw [readValue, skipBlanks_cons_of_not (by decide)]
  rfl

lemma readsValue_no :
    ReadsValue (0x66 :: 0x61 :: 0x6C :: 0x73 :: 0x65 :: rest) (.bool false) rest := by
  refine .of_first (by decide) (by decide) (by simp; omega) fun fuel _ => ?_
  rw [readValue, skipBlanks_cons_of_not (by decide)]
  rfl

lemma readsValue_number {text : NumberText} (h : NumberAt false s text rest) :
    ReadsValue s (.number text) rest := by
  have hshorter := h.length_lt
  have hvalue := h.numberValue_eq
  obtain ⟨b, t, rfl, hdigit⟩ := h.exists_digit
  have hne {c : UInt8} (hc : isDigit c = false) : b ≠ c := fun heq => by
    rw [heq, hc] at hdigit
    exact Bool.false_ne_true hdigit
  have hblank : ¬IsBlank b := by
    rintro (rfl | rfl | rfl | rfl) <;> exact absurd hdigit (by decide)
  refine .of_first hblank (hne (by decide)) hshorter fun fuel _ => ?_
  rw [readValue, skipBlanks_cons_of_not hblank]
  split
  case h_8 => exact hvalue
  all_goals
    rename_i heq
    exact absurd (List.cons.inj heq).1 (hne (by decide))

lemma readsValue_negative {text : NumberText} (h : NumberAt true s text rest) :
    ReadsValue (0x2D :: s) (.number text) rest := by
  refine .of_first (by decide) (by decide) (h.length_lt.trans (Nat.lt_succ_self _))
    fun fuel _ => ?_
  rw [readValue, skipBlanks_cons_of_not (by decide)]
  exact h.numberValue_eq

lemma readsValue_string {text : List Char} (h : TextAt s text rest) :
    ReadsValue (0x22 :: s) (.string (some (String.ofList text))) rest := by
  obtain ⟨parts, hparts, hbytes⟩ := exists_parts_of_textAt h
  refine .of_first (by decide) (by decide) (h.length_lt.trans (Nat.lt_succ_self _))
    fun fuel _ => ?_
  rw [readValue, skipBlanks_cons_of_not (by decide)]
  simp only [hparts, textOf?_eq hbytes]

/-! ### Arrays -/

lemma readsValue_emptyArray (h : Blanks s (0x5D :: rest)) :
    ReadsValue (0x5B :: s) (.array [] true) rest := by
  have hle := h.length_le
  rw [List.length_cons] at hle
  refine .of_first (by decide) (by decide) (by omega) fun fuel _ => ?_
  rw [readValue, skipBlanks_cons_of_not (by decide)]
  simp only [skipBlanks_eq_cons h (by decide : ¬IsBlank 0x5D)]

lemma ReadsItems.readsValue {items : List Json} (h : ReadsItems s items rest) :
    ReadsValue (0x5B :: s) (.array items true) rest := by
  refine .of_first (by decide) (by decide) (h.shorter.trans (Nat.lt_succ_self _))
    fun fuel hfuel => ?_
  rw [readValue, skipBlanks_cons_of_not (by decide)]
  simp only
  split
  · rename_i heq
    exact absurd heq (h.ne_close _)
  · rw [readItems_congr (skipBlanks_skipBlanks s), h.reads fuel hfuel]
    rfl

lemma ReadsValue.readsItems_last {item : Json} (h : ReadsValue s item t)
    (hclose : Blanks t (0x5D :: rest)) : ReadsItems s [item] rest := by
  have hshorter := h.shorter
  have hle := hclose.length_le
  rw [List.length_cons] at hle
  refine ⟨by omega, h.ne_close, fun fuel hfuel => ?_⟩
  obtain ⟨fuel, rfl⟩ := Nat.exists_eq_add_one_of_ne_zero (Nat.ne_zero_of_lt hfuel)
  rw [readItems, h.reads fuel (by omega)]
  simp only
  rw [skipBlanks_eq_cons hclose (by decide)]
  rfl

lemma ReadsValue.readsItems_next {u : List UInt8} {item : Json} {items : List Json}
    (h : ReadsValue s item t) (hcomma : Blanks t (0x2C :: u)) (hitems : ReadsItems u items rest) :
    ReadsItems s (item :: items) rest := by
  have hshorter := h.shorter
  have hle := hcomma.length_le
  have hlater := hitems.shorter
  rw [List.length_cons] at hle
  refine ⟨by omega, h.ne_close, fun fuel hfuel => ?_⟩
  obtain ⟨fuel, rfl⟩ := Nat.exists_eq_add_one_of_ne_zero (Nat.ne_zero_of_lt hfuel)
  rw [readItems, h.reads fuel (by omega)]
  simp only
  rw [skipBlanks_eq_cons hcomma (by decide)]
  simp only
  rw [hitems.reads fuel (by omega)]

/-! ### Objects -/

lemma readsValue_emptyObject (h : Blanks s (0x7D :: rest)) :
    ReadsValue (0x7B :: s) (record []) rest := by
  have hle := h.length_le
  rw [List.length_cons] at hle
  refine .of_first (by decide) (by decide) (by omega) fun fuel _ => ?_
  rw [readValue, skipBlanks_cons_of_not (by decide)]
  simp only [skipBlanks_eq_cons h (by decide : ¬IsBlank 0x7D)]
  rfl

lemma ReadsMembers.readsValue {members : List (String × Json)}
    (h : ReadsMembers s members rest) : ReadsValue (0x7B :: s) (record members) rest := by
  refine .of_first (by decide) (by decide) (h.shorter.trans (Nat.lt_succ_self _))
    fun fuel hfuel => ?_
  rw [readValue, skipBlanks_cons_of_not (by decide)]
  simp only
  split
  · rename_i heq
    exact absurd heq (h.ne_close _)
  · rw [readMembers_congr (skipBlanks_skipBlanks s), h.reads fuel hfuel]
    rfl

/-- Once the name of a member and its value are read, the mark behind them decides. -/
lemma NameAt.readMembers_eq {name : List Char} {value : Json} {u : List UInt8} {fuel : ℕ}
    (h : NameAt s name t) (hvalue : readValue fuel t = (value, some u)) :
    (∀ rest, skipBlanks u = 0x7D :: rest →
      readMembers (fuel + 1) s = ([(some (String.ofList name), value)], some rest)) ∧
    ∀ v, skipBlanks u = 0x2C :: v → readMembers (fuel + 1) s =
      ((some (String.ofList name), value) :: (readMembers fuel v).1, (readMembers fuel v).2) := by
  obtain ⟨v, w, hquote, htext, hcolon⟩ := h
  obtain ⟨parts, hparts, hbytes⟩ := exists_parts_of_textAt htext
  rw [readMembers, skipBlanks_eq_cons hquote (by decide)]
  simp only [hparts, skipBlanks_eq_cons hcolon (by decide : ¬IsBlank 0x3A), hvalue,
    textOf?_eq hbytes]
  constructor
  · intro rest hclose
    rw [hclose]
    rfl
  · intro v hcomma
    rw [hcomma]
    rfl

lemma ReadsValue.readsMembers_last {name : List Char} {value : Json} {u : List UInt8}
    (h : ReadsValue t value u) (hname : NameAt s name t) (hclose : Blanks u (0x7D :: rest)) :
    ReadsMembers s [(String.ofList name, value)] rest := by
  have h1 := hname.length_lt
  have h2 := h.shorter
  have h3 := hclose.length_le
  rw [List.length_cons] at h3
  refine ⟨by omega, hname.ne_close, fun fuel hfuel => ?_⟩
  obtain ⟨fuel, rfl⟩ := Nat.exists_eq_add_one_of_ne_zero (Nat.ne_zero_of_lt hfuel)
  exact (hname.readMembers_eq (h.reads fuel (by omega))).1 rest
    (skipBlanks_eq_cons hclose (by decide))

lemma ReadsValue.readsMembers_next {name : List Char} {value : Json} {u v : List UInt8}
    {members : List (String × Json)} (h : ReadsValue t value u) (hname : NameAt s name t)
    (hcomma : Blanks u (0x2C :: v)) (hmembers : ReadsMembers v members rest) :
    ReadsMembers s ((String.ofList name, value) :: members) rest := by
  have h1 := hname.length_lt
  have h2 := h.shorter
  have h3 := hcomma.length_le
  have h4 := hmembers.shorter
  rw [List.length_cons] at h3
  refine ⟨by omega, hname.ne_close, fun fuel hfuel => ?_⟩
  obtain ⟨fuel, rfl⟩ := Nat.exists_eq_add_one_of_ne_zero (Nat.ne_zero_of_lt hfuel)
  rw [(hname.readMembers_eq (h.reads fuel (by omega))).2 v
    (skipBlanks_eq_cons hcomma (by decide)), hmembers.reads fuel (by omega)]
  rfl

/-! ### Values -/

mutual

/-- Every value that is spelled is read, by induction on how it is spelled. -/
theorem readsValue_of_valueAt {s rest : List UInt8} {value : Json} :
    ValueAt s value rest → ReadsValue s value rest
  | .blank hb h => (readsValue_of_valueAt h).blank hb
  | .null _ => readsValue_null
  | .yes _ => readsValue_yes
  | .no _ => readsValue_no
  | .number h => readsValue_number h
  | .negative h => readsValue_negative h
  | .string h => readsValue_string h
  | .emptyArray h => readsValue_emptyArray h
  | .array h => (readsItems_of_itemsAt h).readsValue
  | .emptyObject h => readsValue_emptyObject h
  | .object h => (readsMembers_of_membersAt h).readsValue

theorem readsItems_of_itemsAt {s rest : List UInt8} {items : List Json} :
    ItemsAt s items rest → ReadsItems s items rest
  | .last hitem hclose => (readsValue_of_valueAt hitem).readsItems_last hclose
  | .next hitem hcomma h =>
      (readsValue_of_valueAt hitem).readsItems_next hcomma (readsItems_of_itemsAt h)

theorem readsMembers_of_membersAt {s rest : List UInt8} {members : List (String × Json)} :
    MembersAt s members rest → ReadsMembers s members rest
  | .last hname hvalue hclose => (readsValue_of_valueAt hvalue).readsMembers_last hname hclose
  | .next hname hvalue hcomma h =>
      (readsValue_of_valueAt hvalue).readsMembers_next hname hcomma (readsMembers_of_membersAt h)

end

/-- A text that spells a value is read as that value, to its end. -/
theorem Document.ofBytes_of_spells {value : Json} (h : Spells s value) :
    Document.ofBytes s = ⟨value, true⟩ := by
  obtain ⟨rest, hvalue, hrest⟩ := h
  rw [Document.ofBytes, (readsValue_of_valueAt hvalue).reads _ (by omega)]
  simp only
  rw [skipBlanks_of_blanks hrest]
  rfl

/-! ### Soundness -/

lemma isSound_record_cons {name : String} {value : Json} {members : List (String × Json)} :
    isSound (record ((name, value) :: members)) = (isSound value && isSound (record members)) := rfl

mutual

/-- Nothing in a value that is spelled is a fault. -/
theorem isSound_of_valueAt {s rest : List UInt8} {value : Json} :
    ValueAt s value rest → value.isSound = true
  | .blank _ h => isSound_of_valueAt h
  | .null _ | .yes _ | .no _ | .number _ | .negative _ | .string _ => rfl
  | .emptyArray _ | .emptyObject _ => rfl
  | .array h => areSound_of_itemsAt h
  | .object h => isSound_record_of_membersAt h

theorem areSound_of_itemsAt {s rest : List UInt8} {items : List Json} :
    ItemsAt s items rest → areSound items = true
  | .last hitem _ => by rw [areSound, isSound_of_valueAt hitem, areSound, Bool.true_and]
  | .next hitem _ h => by
      rw [areSound, isSound_of_valueAt hitem, areSound_of_itemsAt h, Bool.true_and]

theorem isSound_record_of_membersAt {s rest : List UInt8} {members : List (String × Json)} :
    MembersAt s members rest → (record members).isSound = true
  | .last _ hvalue _ => by
      rw [isSound_record_cons, isSound_of_valueAt hvalue]
      rfl
  | .next _ hvalue _ h => by
      rw [isSound_record_cons, isSound_of_valueAt hvalue, isSound_record_of_membersAt h,
        Bool.true_and]

end

/-- Nothing in the value of a whole text is a fault. -/
theorem isSound_of_spells {value : Json} (h : Spells s value) : value.isSound = true :=
  h.elim fun _ hvalue => isSound_of_valueAt hvalue.1

end ImageRetention.Json
