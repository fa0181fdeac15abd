import Mathlib.Tactic
import ImageRetention.Image.Assignment
import ImageRetention.Proofs.Text.Piece

/-!
The meaning of a scan, in terms of positions in a file.

* `Occurs`: the token at a position of a line, with something behind it;
* `valueAfter?_eq_some_iff`: what is taken from a line follows the last such position;
* `LineOf`: a line of a file as the positions where it starts and where it ends;
* `NamedFrom`: what the line from a position on names;
* `scan_iff_named`: a scan finds just what the lines of a file name, and one reference at most
  for each line.

Nothing but line feeds ends a line, and bytes are compared with the token before any of them is
read as text.  So neither a carriage return nor bytes that are no text can hide a token.
-/

namespace ImageRetention.Image

/-! ### The token in a line -/

/-- The token as bytes. -/
def tokenBytes : List UInt8 := Text.Utf8.bytesOf token

/-- The token is at a position of some bytes, and ends before another one. -/
structure Occurs (bytes : List UInt8) (stop position : ℕ) : Prop where
  begins : tokenBytes <+: bytes.drop position
  ends : position + tokenBytes.length < stop

/-- The last position where the token is followed by something. -/
structure OccursLast (bytes : List UInt8) (stop position : ℕ) : Prop
    extends Occurs bytes stop position where
  last : ∀ later, position < later → ¬Occurs bytes stop later

lemma OccursLast.unique {bytes : List UInt8} {stop position other : ℕ}
    (h : OccursLast bytes stop position) (hother : OccursLast bytes stop other) :
    position = other := by
  rcases Nat.lt_trichotomy position other with hlt | rfl | hlt
  · exact absurd hother.toOccurs (h.last other hlt)
  · rfl
  · exact absurd h.toOccurs (hother.last position hlt)

variable {b : UInt8} {line rest value : List UInt8} {position : ℕ}

lemma occurs_succ_iff :
    Occurs (b :: rest) (b :: rest).length (position + 1) ↔ Occurs rest rest.length position := by
  constructor
  · rintro ⟨hbegins, hends⟩
    rw [List.length_cons] at hends
    exact ⟨hbegins, by omega⟩
  · rintro ⟨hbegins, hends⟩
    exact ⟨hbegins, by rw [List.length_cons]; omega⟩

lemma occurs_zero_iff :
    Occurs (b :: rest) (b :: rest).length 0 ↔
      (tokenBytes.isPrefixOf (b :: rest) && tokenBytes.length < (b :: rest).length) = true := by
  rw [Bool.and_eq_true, List.isPrefixOf_iff_prefix, decide_eq_true_iff]
  constructor
  · rintro ⟨hbegins, hends⟩
    exact ⟨hbegins, by omega⟩
  · rintro ⟨hbegins, hends⟩
    exact ⟨hbegins, by omega⟩

lemma not_occurs_of_valueAfter?_eq_none (h : valueAfter? tokenBytes line = none) (position : ℕ) :
    ¬Occurs line line.length position := by
  induction line generalizing position with
  | nil => exact fun hoccurs => absurd hoccurs.ends (by simp)
  | cons b rest ih =>
      rw [valueAfter?] at h
      split at h
      · cases h
      · rename_i hnone
        split at h
        · cases h
        · rename_i hfirst
          cases position with
          | zero => exact fun hoccurs => hfirst (occurs_zero_iff.mp hoccurs)
          | succ position => exact fun hoccurs => ih hnone position (occurs_succ_iff.mp hoccurs)

lemma exists_occursLast_of_valueAfter? (h : valueAfter? tokenBytes line = some value) :
    ∃ position, OccursLast line line.length position ∧
      line.drop (position + tokenBytes.length) = value := by
  induction line with
  | nil => cases h
  | cons b rest ih =>
      rw [valueAfter?] at h
      split at h
      · rename_i found hfound
        cases h
        obtain ⟨position, hoccurs, hdrop⟩ := ih hfound
        refine ⟨position + 1, ⟨occurs_succ_iff.mpr hoccurs.toOccurs, fun later hlater => ?_⟩, ?_⟩
        · obtain ⟨later, rfl⟩ := Nat.exists_eq_add_one_of_ne_zero (Nat.ne_zero_of_lt hlater)
          exact fun hother => hoccurs.last later (by omega) (occurs_succ_iff.mp hother)
        · rw [← hdrop, Nat.add_right_comm, List.drop_succ_cons]
      · rename_i hnone
        split at h
        · rename_i hfirst
          cases h
          refine ⟨0, ⟨occurs_zero_iff.mpr hfirst, fun later hlater => ?_⟩, by rw [Nat.zero_add]⟩
          obtain ⟨later, rfl⟩ := Nat.exists_eq_add_one_of_ne_zero (Nat.ne_zero_of_lt hlater)
          exact fun hother =>
            not_occurs_of_valueAfter?_eq_none hnone later (occurs_succ_iff.mp hother)
        · cases h

/-- What is taken from a line follows the last token that anything follows. -/
theorem valueAfter?_eq_some_iff :
    valueAfter? tokenBytes line = some value ↔ ∃ position,
      OccursLast line line.length position ∧ line.drop (position + tokenBytes.length) = value := by
  constructor
  · exact exists_occursLast_of_valueAfter?
  · rintro ⟨position, hoccurs, rfl⟩
    cases hvalue : valueAfter? tokenBytes line with
    | none => exact absurd hoccurs.toOccurs (not_occurs_of_valueAfter?_eq_none hvalue position)
    | some found =>
        obtain ⟨other, hother, rfl⟩ := exists_occursLast_of_valueAfter? hvalue
        rw [hoccurs.unique hother]

/-- A line names what is left of the text behind its last token without the blanks at the
end. -/
lemma ofLine?_eq_some_iff {reference : ImageReference} :
    ofLine? line = some reference ↔ ∃ position, OccursLast line line.length position ∧
      Text.TrimmedTo (Text.Utf8.decodeLossy (line.drop (position + tokenBytes.length)))
        reference.text.toList ∧ reference.text ≠ "" := by
  have hleft (text : List Char) :
      (if text.isEmpty then none else some (ImageReference.mk (String.ofList text))) =
          some reference ↔ text = reference.text.toList ∧ reference.text ≠ "" := by
    rcases reference with ⟨reference⟩
    split
    · rename_i hempty
      simp [List.isEmpty_iff.mp hempty]
    · rename_i hne
      simp only [Option.some_inj, ImageReference.mk.injEq]
      constructor
      · rintro rfl
        simpa using hne
      · rintro ⟨rfl, -⟩
        exact String.ofList_toList
  simp only [ofLine?, Option.bind_eq_bind, Option.bind_eq_some_iff, hleft, ← Text.trimEnd_eq_iff]
  constructor
  · rintro ⟨value, hvalue, htext⟩
    obtain ⟨position, hoccurs, rfl⟩ := valueAfter?_eq_some_iff.mp hvalue
    exact ⟨position, hoccurs, htext⟩
  · rintro ⟨position, hoccurs, htext⟩
    exact ⟨_, valueAfter?_eq_some_iff.mpr ⟨position, hoccurs, rfl⟩, htext⟩

/-! ### Lines of a file -/

/-- The byte that ends a line. -/
def lineFeed : UInt8 := 0x0A

/-- A line of a file starts at its beginning or just after a line feed, and ends at the next
line feed or with the file. -/
structure LineOf (content : List UInt8) (start stop : ℕ) : Prop where
  starts : start = 0 ∨ ∃ before, start = before + 1 ∧ content[before]? = some lineFeed
  ordered : start ≤ stop
  inside : ∀ position, start ≤ position → position < stop → content[position]? ≠ some lineFeed
  stops : stop = content.length ∨ content[stop]? = some lineFeed

section Lines

variable {content before after : List UInt8} {start stop : ℕ}

lemma LineOf.stop_le (h : LineOf content start stop) : stop ≤ content.length := by
  rcases h.stops with rfl | hfeed
  · exact le_rfl
  · exact (List.getElem?_eq_some_iff.mp hfeed).1.le

/-- A line that starts where another one does also ends there. -/
lemma LineOf.stop_unique {other : ℕ} (h : LineOf content start stop)
    (hother : LineOf content start other) : stop = other := by
  have hle {first second : ℕ} (hfirst : LineOf content start first)
      (hsecond : LineOf content start second) : first ≤ second := by
    by_contra hlt
    rcases hsecond.stops with rfl | hfeed
    · exact hlt hfirst.stop_le
    · exact hfirst.inside second hsecond.ordered (by omega) hfeed
  exact Nat.le_antisymm (hle h hother) (hle hother h)

/-- A part of a file without line feeds, between line feeds or the ends, is a line. -/
lemma lineOf_of_between (hbefore : Text.EndsAt lineFeed before)
    (hafter : Text.StartsAt lineFeed after) (hfree : lineFeed ∉ line) :
    LineOf (before ++ line ++ after) before.length (before.length + line.length) := by
  refine ⟨?_, Nat.le_add_right _ _, fun position hstart hstop => ?_, ?_⟩
  · rcases hbefore with rfl | ⟨s, rfl⟩
    · exact Or.inl rfl
    · exact Or.inr ⟨s.length, by simp, by simp⟩
  · obtain ⟨offset, rfl⟩ := Nat.exists_eq_add_of_le hstart
    rw [List.append_assoc, List.getElem?_append_right hstart, Nat.add_sub_cancel_left,
      List.getElem?_append_left (by omega)]
    exact fun hfeed => hfree (List.mem_of_getElem? hfeed)
  · rcases hafter with rfl | ⟨s, rfl⟩
    · exact Or.inl (by simp)
    · refine Or.inr ?_
      rw [List.getElem?_append_right (by simp)]
      simp

/-- What stands between the two positions of a line, and around it. -/
lemma LineOf.exists_between (h : LineOf content start stop) :
    ∃ before line after, content = before ++ line ++ after ∧ Text.EndsAt lineFeed before ∧
      Text.StartsAt lineFeed after ∧ lineFeed ∉ line ∧ start = before.length ∧
      stop = before.length + line.length := by
  have hstop := h.stop_le
  have hstart := h.ordered
  refine ⟨content.take start, (content.take stop).drop start, content.drop stop, ?_, ?_, ?_, ?_,
    ?_, ?_⟩
  · have htake : content.take start = (content.take stop).take start := by
      rw [List.take_take, Nat.min_eq_left hstart]
    rw [htake, List.take_append_drop, List.take_append_drop]
  · rcases h.starts with rfl | ⟨before, rfl, hfeed⟩
    · exact Or.inl List.take_zero
    · exact Or.inr ⟨content.take before, by rw [List.take_add_one, hfeed]; rfl⟩
  · rcases h.stops with rfl | hfeed
    · exact Or.inl List.drop_length
    · obtain ⟨hlt, hget⟩ := List.getElem?_eq_some_iff.mp hfeed
      exact Or.inr ⟨content.drop (stop + 1), by rw [List.drop_eq_getElem_cons hlt, hget]⟩
  · intro hmem
    obtain ⟨offset, hoffset⟩ := List.mem_iff_getElem?.mp hmem
    have hlt := (List.getElem?_eq_some_iff.mp hoffset).1
    rw [List.length_drop, List.length_take] at hlt
    rw [List.getElem?_drop, List.getElem?_take_of_lt (by omega)] at hoffset
    exact h.inside _ (Nat.le_add_right _ _) (by omega) hoffset
  · rw [List.length_take]
    omega
  · rw [List.length_take, List.length_drop, List.length_take]
    omega

/-- The token is at a position of a line just if it is at the same place of the file. -/
lemma occurs_in_content_iff :
    Occurs (before ++ line ++ after) (before.length + line.length) (before.length + position) ↔
      Occurs line line.length position := by
  have hdrop : (before ++ line ++ after).drop (before.length + position) =
      (line ++ after).drop position := by
    rw [List.append_assoc, List.drop_append, Nat.add_sub_cancel_left,
      List.drop_eq_nil_of_le (Nat.le_add_right _ _), List.nil_append]
  have hline : position ≤ line.length →
      (line ++ after).drop position = line.drop position ++ after := fun hle =>
    List.drop_append_of_le_length hle
  constructor
  · rintro ⟨hbegins, hends⟩
    rw [hdrop, hline (by omega)] at hbegins
    refine ⟨List.prefix_of_prefix_length_le hbegins (List.prefix_append _ _) ?_, by omega⟩
    rw [List.length_drop]
    omega
  · rintro ⟨hbegins, hends⟩
    refine ⟨?_, by omega⟩
    rw [hdrop, hline (by omega)]
    exact hbegins.trans (List.prefix_append _ _)

lemma occursLast_in_content_iff :
    OccursLast (before ++ line ++ after) (before.length + line.length)
      (before.length + position) ↔ OccursLast line line.length position := by
  constructor
  · rintro ⟨hoccurs, hlast⟩
    refine ⟨occurs_in_content_iff.mp hoccurs, fun later hlater hother => ?_⟩
    exact hlast (before.length + later) (by omega) (occurs_in_content_iff.mpr hother)
  · rintro ⟨hoccurs, hlast⟩
    refine ⟨occurs_in_content_iff.mpr hoccurs, fun later hlater hother => ?_⟩
    obtain ⟨offset, rfl⟩ := Nat.exists_eq_add_of_le (show before.length ≤ later by omega)
    exact hlast offset (by omega) (occurs_in_content_iff.mp hother)

end Lines

/-! ### The meaning of a scan -/

/-- The line from a position of a file on names a reference: the text behind the last token of
the line that anything follows, without the blanks at its end. -/
def NamedFrom (content : List UInt8) (start : ℕ) (reference : ImageReference) : Prop :=
  ∃ stop position, LineOf content start stop ∧ start ≤ position ∧
    OccursLast content stop position ∧
    Text.TrimmedTo
      (Text.Utf8.decodeLossy ((content.take stop).drop (position + tokenBytes.length)))
      reference.text.toList ∧
    reference.text ≠ ""

/-- A line of a file names what it names by itself. -/
lemma namedFrom_iff_ofLine? {before line after : List UInt8} (hbefore : Text.EndsAt lineFeed before)
    (hafter : Text.StartsAt lineFeed after) (hfree : lineFeed ∉ line)
    {reference : ImageReference} :
    NamedFrom (before ++ line ++ after) before.length reference ↔
      ofLine? line = some reference := by
  have hlineOf := lineOf_of_between hbefore hafter hfree
  have hvalue (position : ℕ) :
      ((before ++ line ++ after).take (before.length + line.length)).drop
        (before.length + position + tokenBytes.length) =
          line.drop (position + tokenBytes.length) := by
    rw [List.take_left' (by simp), Nat.add_assoc, List.drop_append, Nat.add_sub_cancel_left,
      List.drop_eq_nil_of_le (Nat.le_add_right _ _), List.nil_append]
  rw [ofLine?_eq_some_iff]
  constructor
  · rintro ⟨stop, position, hstop, hstart, hoccurs, htext⟩
    obtain rfl := hstop.stop_unique hlineOf
    obtain ⟨offset, rfl⟩ := Nat.exists_eq_add_of_le hstart
    rw [hvalue] at htext
    exact ⟨offset, occursLast_in_content_iff.mp hoccurs, htext⟩
  · rintro ⟨position, hoccurs, htext⟩
    rw [← hvalue] at htext
    exact ⟨_, _, hlineOf, Nat.le_add_right _ _, occursLast_in_content_iff.mpr hoccurs, htext⟩

lemma NamedFrom.exists_line {content : List UInt8} {start : ℕ} {reference : ImageReference}
    (h : NamedFrom content start reference) :
    ∃ before line after, content = before ++ line ++ after ∧ Text.EndsAt lineFeed before ∧
      Text.StartsAt lineFeed after ∧ lineFeed ∉ line ∧ start = before.length := by
  obtain ⟨stop, position, hlineOf, -⟩ := h
  obtain ⟨before, line, after, hcontent, hbefore, hafter, hfree, hstart, -⟩ :=
    hlineOf.exists_between
  exact ⟨before, line, after, hcontent, hbefore, hafter, hfree, hstart⟩

/-- A scan finds just the references that the lines of a file name: on a line, the text behind
the last token that anything follows, up to the end of the line and without the blanks there,
unless nothing is left of it.  A line names one reference at most. -/
theorem scan_iff_named (content : List UInt8) :
    (∀ reference, reference ∈ scan content ↔ ∃ start, NamedFrom content start reference) ∧
    ∀ start, {reference | NamedFrom content start reference}.Subsingleton := by
  constructor
  · intro reference
    rw [scan, SortedSet.mem_ofList, List.mem_filterMap]
    constructor
    · rintro ⟨line, hline, hnames⟩
      obtain ⟨before, after, rfl, hbefore, hafter, hfree⟩ := Text.mem_split_iff.mp hline
      exact ⟨before.length, (namedFrom_iff_ofLine? hbefore hafter hfree).mpr hnames⟩
    · rintro ⟨start, hnamed⟩
      obtain ⟨before, line, after, rfl, hbefore, hafter, hfree, rfl⟩ := hnamed.exists_line
      exact ⟨line, Text.mem_split_iff.mpr ⟨before, after, rfl, hbefore, hafter, hfree⟩,
        (namedFrom_iff_ofLine? hbefore hafter hfree).mp hnamed⟩
  · intro start reference hnamed other hother
    rw [Set.mem_ofPred_eq] at hnamed hother
    obtain ⟨before, line, after, rfl, hbefore, hafter, hfree, rfl⟩ := hnamed.exists_line
    rw [namedFrom_iff_ofLine? hbefore hafter hfree] at hnamed hother
    exact Option.some.inj (hnamed.symm.trans hother)

/-- A byte that is no text, and a carriage return within the line, hide nothing; a token that
nothing follows counts as text. -/
example : (scan ([0xE9] ++ tokenBytes ++ [0x61, 0x0D] ++ tokenBytes ++ [0x0A])).toList =
    [⟨"a\rCI_BUILD_CONTAINER="⟩] := by
  decide +kernel

end ImageRetention.Image
