import Mathlib.Tactic
import ImageRetention.Path.Expansion

/-!
Texts that the expansion of variables leaves alone.

* `Path.TakesDollar`: what follows a dollar sign gives it a meaning of its own;
* `Path.IsPlain`: every dollar sign of a text stands for itself;
* `expandVariables_of_isPlain`: a plain text is its own expansion, whatever is set;
* `length_expandVariables_unset`: where nothing is set an expansion is no longer than the text,
  and as long only if the text is plain;
* `isPlain_iff`: a text is plain just if it is its own expansion where nothing is set.
-/

namespace ImageRetention.Path

open Text (splitOnce? eq_of_splitOnce? splitOnce?_append_cons)

/-! ### Plain texts -/

/-- What follows a dollar sign gives it a meaning: another dollar sign, of which one is left out,
or a variable, by its name alone or in braces that are closed. -/
def TakesDollar : List Char → Prop
  | [] => False
  | '\x7b' :: inner => '\x7d' ∈ inner
  | c :: _ => c = '$' ∨ isNameChar c = true

/-- Every dollar sign of a text stands for itself. -/
def IsPlain (text : List Char) : Prop :=
  ∀ after, '$' :: after <:+ text → ¬TakesDollar after

lemma takesDollar_brace {inner : List Char} : TakesDollar ('\x7b' :: inner) ↔ '\x7d' ∈ inner :=
  Iff.rfl

lemma takesDollar_cons {c : Char} (hc : c ≠ '\x7b') {rest : List Char} :
    TakesDollar (c :: rest) ↔ c = '$' ∨ isNameChar c = true := by
  rw [TakesDollar]
  exact hc

@[simp] lemma isPlain_nil : IsPlain [] := by
  simp [IsPlain]

lemma isPlain_dollar_cons {rest : List Char} :
    IsPlain ('$' :: rest) ↔ ¬TakesDollar rest ∧ IsPlain rest := by
  simp only [IsPlain, List.suffix_cons_iff, List.cons.injEq, true_and]
  exact ⟨fun h => ⟨h rest (Or.inl rfl), fun after hafter => h after (Or.inr hafter)⟩,
    fun ⟨hrest, hlater⟩ after hafter => hafter.elim (fun heq => heq ▸ hrest) (hlater after)⟩

lemma isPlain_cons_of_ne {c : Char} (hc : c ≠ '$') {rest : List Char} :
    IsPlain (c :: rest) ↔ IsPlain rest := by
  simp [IsPlain, List.suffix_cons_iff, Ne.symm hc]

/-- A text without a dollar sign is plain. -/
lemma isPlain_of_notMem {text : List Char} (h : '$' ∉ text) : IsPlain text :=
  fun _ hafter => absurd (hafter.subset List.mem_cons_self) h

/-! ### Dollar signs with and without a meaning -/

/-- Braces that are never closed give no meaning to the dollar sign before them. -/
lemma not_takesDollar_of_unclosed {inner : List Char} (h : splitOnce? '\x7d' inner = none) :
    ¬TakesDollar ('\x7b' :: inner) := by
  intro hmem
  obtain ⟨body, after, rfl, hbody⟩ := List.eq_append_cons_of_mem (takesDollar_brace.mp hmem)
  rw [splitOnce?_append_cons hbody] at h
  cases h

lemma takesDollar_of_closed {inner body after : List Char}
    (h : splitOnce? '\x7d' inner = some (body, after)) : TakesDollar ('\x7b' :: inner) := by
  rw [takesDollar_brace, (eq_of_splitOnce? h).1]
  simp

/-- A name gives a meaning to the dollar sign before it. -/
lemma takesDollar_iff_name {rest : List Char} (hbrace : ∀ inner, rest = '\x7b' :: inner → False)
    (hdollar : ∀ later, rest = '$' :: later → False) :
    TakesDollar rest ↔ rest.takeWhile isNameChar ≠ [] := by
  cases rest with
  | nil => simp [TakesDollar]
  | cons c later =>
      have hc : c ≠ '\x7b' := fun h => hbrace later (by rw [h])
      have hother : c ≠ '$' := fun h => hdollar later (by rw [h])
      rw [takesDollar_cons hc]
      cases hname : isNameChar c <;> simp [hname, hother]

lemma length_lt_of_splitAtDefault? {body name text : List Char}
    (h : splitAtDefault? body = some (name, text)) : text.length < body.length := by
  fun_induction splitAtDefault? body generalizing name text with
  | case1 => cases h
  | case2 rest =>
      obtain ⟨rfl, rfl⟩ := Prod.mk.inj (Option.some.inj h)
      simp only [List.length_cons]
      omega
  | case3 c rest hnot ih =>
      obtain ⟨⟨before, after⟩, hparts, heq⟩ := Option.map_eq_some_iff.mp h
      obtain ⟨rfl, rfl⟩ := Prod.mk.inj heq
      exact (ih hparts).trans (Nat.lt_succ_self _)

/-- A text in place of a value is shorter than what stands between the braces. -/
lemma length_lt_of_nameAndDefault {body name text : List Char}
    (h : nameAndDefault body = (name, some text)) : text.length < body.length := by
  rw [nameAndDefault] at h
  split at h
  · rename_i hparts
    obtain ⟨-, htext⟩ := Prod.mk.inj h
    exact Option.some.inj htext ▸ length_lt_of_splitAtDefault? hparts
  · cases h

/-! ### Expansion -/

variable {text expanded : List Char}

private lemma exists_of_map_eq_ok {ε α β : Type} {f : α → β} {result : Except ε α} {value : β}
    (h : result.map f = .ok value) : ∃ part, result = .ok part ∧ value = f part := by
  cases result with
  | error error => cases h
  | ok part => exact ⟨part, rfl, (Except.ok.inj h).symm⟩

/-- A plain text is its own expansion.  By induction on the expansion: in each step the dollar
sign in front stands for itself, or there is none, and what is left of the text is plain. -/
theorem expandVariables_of_isPlain (lookup : String → Option String) (h : IsPlain text) :
    expandVariables lookup text = .ok text := by
  fun_induction expandVariables lookup text with
  | case1 => rfl
  -- braces that are never closed
  | case2 inner hopen ih =>
      have hinner : IsPlain inner :=
        (isPlain_cons_of_ne (by decide)).mp (isPlain_dollar_cons.mp h).2
      rw [ih hinner]
      rfl
  -- a variable in braces
  | case3 inner body after hclosed =>
      exact absurd (takesDollar_of_closed hclosed) (isPlain_dollar_cons.mp h).1
  -- two dollar signs
  | case4 rest => exact absurd (Or.inl rfl) (isPlain_dollar_cons.mp h).1
  -- a dollar sign before anything else
  | case5 rest hbrace hdollar hname ih =>
      rw [ih (isPlain_dollar_cons.mp h).2]
      rfl
  -- a variable without braces
  | case6 rest hbrace hdollar hname =>
      exact absurd ((takesDollar_iff_name hbrace hdollar).mpr hname) (isPlain_dollar_cons.mp h).1
  -- any other character
  | case7 c rest hbrace hdollar hc ih =>
      rw [ih ((isPlain_cons_of_ne hc).mp h)]
      rfl

/-- Where nothing is set, whatever a dollar sign takes with it is left out or put in shorter, so
that only a plain text is as long as its expansion. -/
theorem length_expandVariables_unset (h : expandVariables (fun _ => none) text = .ok expanded) :
    expanded.length ≤ text.length ∧ (expanded.length = text.length → IsPlain text) := by
  fun_induction expandVariables (fun _ => none) text generalizing expanded with
  | case1 =>
      cases h
      simp
  | case2 inner hopen ih =>
      obtain ⟨rest, hrest, rfl⟩ := exists_of_map_eq_ok h
      obtain ⟨hle, hplain⟩ := ih hrest
      simp only [List.length_cons, Nat.add_right_cancel_iff, isPlain_dollar_cons,
        isPlain_cons_of_ne (show '\x7b' ≠ '$' by decide)]
      exact ⟨by omega, fun heq => ⟨not_takesDollar_of_unclosed hopen, hplain heq⟩⟩
  -- a variable in braces: the text in its place has lost the braces at least
  | case3 inner body after hclosed _ name default hparts ih =>
      cases default with
      | none => cases h
      | some other =>
          cases hrest : expandVariables (fun _ => none) after with
          | error root => simp [hrest, valueOf, bind, Except.bind] at h
          | ok rest =>
              obtain rfl : other ++ rest = expanded := by
                simpa [hrest, valueOf, bind, Except.bind] using h
              have hother := length_lt_of_nameAndDefault hparts
              have hle := (ih hrest).1
              have hinner := congrArg List.length (eq_of_splitOnce? hclosed).1
              simp only [List.length_append, List.length_cons] at hinner ⊢
              exact ⟨by omega, fun heq => by omega⟩
  -- of two dollar signs one is left out
  | case4 rest ih =>
      obtain ⟨part, hpart, rfl⟩ := exists_of_map_eq_ok h
      have hle := (ih hpart).1
      simp only [List.length_cons]
      exact ⟨by omega, fun heq => by omega⟩
  | case5 rest hbrace hdollar hname ih =>
      obtain ⟨part, hpart, rfl⟩ := exists_of_map_eq_ok h
      obtain ⟨hle, hplain⟩ := ih hpart
      simp only [List.length_cons, Nat.add_right_cancel_iff, isPlain_dollar_cons,
        takesDollar_iff_name hbrace hdollar]
      exact ⟨by omega, fun heq => ⟨not_not_intro hname, hplain heq⟩⟩
  -- a variable without braces has no text in its place
  | case6 => cases h
  | case7 c rest hbrace hdollar hc ih =>
      obtain ⟨part, hpart, rfl⟩ := exists_of_map_eq_ok h
      obtain ⟨hle, hplain⟩ := ih hpart
      simp only [List.length_cons, Nat.add_right_cancel_iff, isPlain_cons_of_ne hc]
      exact ⟨by omega, hplain⟩

/-- A text is plain just if it is its own expansion where nothing is set. -/
theorem isPlain_iff : IsPlain text ↔ expandVariables (fun _ => none) text = .ok text :=
  ⟨expandVariables_of_isPlain _, fun h => (length_expandVariables_unset h).2 rfl⟩

end ImageRetention.Path
