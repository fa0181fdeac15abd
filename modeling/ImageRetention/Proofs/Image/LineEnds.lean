import Mathlib.Tactic
import ImageRetention.Proofs.Image.Scan
import ImageRetention.Proofs.Text.Utf8

/-!
Files whose lines end with a carriage return and a line feed.

* `withReturns`: a file with a carriage return put before every line feed;
* `ofLine?_append_return`: what a line names with a carriage return at its end;
* `FeedAfterToken`: a line is ended by a line feed that directly follows a token;
* `scan_withReturns`: the carriage returns hide just the references that only such lines name.

A token that ends its line has nothing behind it, so an earlier one names the reference.  With a
carriage return behind it the last token counts, and what it names is blank.
-/

namespace ImageRetention.Image

/-- The byte before the line feed where a line end has two. -/
def carriageReturn : UInt8 := 0x0D

/-- A file with a carriage return put before every line feed. -/
def withReturns (content : List UInt8) : List UInt8 :=
  content.flatMap fun b => if b = lineFeed then [carriageReturn, lineFeed] else [b]

variable {line s t content : List UInt8} {position start : ℕ}

/-! ### A line with a carriage return at its end -/

lemma carriageReturn_ne_lineFeed : carriageReturn ≠ lineFeed := by decide

/-- A token that ends a line has just the carriage return behind it. -/
lemma valueAfter?_token_append_return (h : tokenBytes <:+ line) :
    valueAfter? tokenBytes (line ++ [carriageReturn]) = some [carriageReturn] := by
  obtain ⟨before, rfl⟩ := h
  refine valueAfter?_eq_some_iff.mpr ⟨before.length, ⟨⟨?_, by simp⟩, fun later hlater hother => ?_⟩,
    ?_⟩
  · rw [List.append_assoc, List.drop_left]
    exact List.prefix_append _ _
  · have hends := hother.ends
    simp only [List.length_append, List.length_singleton] at hends
    omega
  · rw [← List.length_append, List.drop_left]

/-- Where no token ends the line, tokens with something behind them are the same. -/
lemma occurs_append_return_iff (h : ¬tokenBytes <:+ line) :
    Occurs (line ++ [carriageReturn]) (line ++ [carriageReturn]).length position ↔
      Occurs line line.length position := by
  constructor
  · rintro ⟨hbegins, hends⟩
    rw [List.length_append, List.length_singleton] at hends
    have hdrop : position ≤ line.length := by omega
    rw [List.drop_append_of_le_length hdrop] at hbegins
    have hbegin : tokenBytes <+: line.drop position := by
      refine List.prefix_of_prefix_length_le hbegins (List.prefix_append _ _) ?_
      rw [List.length_drop]
      omega
    refine ⟨hbegin, lt_of_le_of_ne (by omega) fun heq => h ?_⟩
    rw [hbegin.eq_of_length (by rw [List.length_drop]; omega)]
    exact List.drop_suffix _ _
  · rintro ⟨hbegins, hends⟩
    refine ⟨?_, by rw [List.length_append]; omega⟩
    rw [List.drop_append_of_le_length (by omega)]
    exact hbegins.trans (List.prefix_append _ _)

lemma occursLast_append_return_iff (h : ¬tokenBytes <:+ line) :
    OccursLast (line ++ [carriageReturn]) (line ++ [carriageReturn]).length position ↔
      OccursLast line line.length position := by
  constructor
  · rintro ⟨hoccurs, hlast⟩
    exact ⟨(occurs_append_return_iff h).mp hoccurs, fun later hlater hother =>
      hlast later hlater ((occurs_append_return_iff h).mpr hother)⟩
  · rintro ⟨hoccurs, hlast⟩
    exact ⟨(occurs_append_return_iff h).mpr hoccurs, fun later hlater hother =>
      hlast later hlater ((occurs_append_return_iff h).mp hother)⟩

/-- A carriage return at the end of a text is trimmed with the other blanks there. -/
lemma trimEnd_append_return (value : List UInt8) :
    Text.trimEnd (Text.Utf8.decodeLossy (value ++ [carriageReturn])) =
      Text.trimEnd (Text.Utf8.decodeLossy value) := by
  have hblank : Text.isBlank (Char.ofNat carriageReturn.toNat) = true := by decide
  rw [Text.Utf8.decodeLossy_append_ascii (by decide), Text.trimEnd, List.reverse_append,
    List.reverse_singleton, List.singleton_append, List.dropWhile_cons_of_pos hblank]
  rfl

lemma ofLine?_append_return (h : ¬tokenBytes <:+ line) :
    ofLine? (line ++ [carriageReturn]) = ofLine? line := by
  ext reference
  simp only [ofLine?_eq_some_iff, occursLast_append_return_iff h, ← Text.trimEnd_eq_iff]
  refine exists_congr fun position => and_congr_right fun hoccurs => ?_
  have hends := hoccurs.ends
  rw [List.drop_append_of_le_length (by omega), trimEnd_append_return]

/-- A line that a token ends names nothing once a carriage return follows it. -/
lemma ofLine?_token_append_return (h : tokenBytes <:+ line) :
    ofLine? (line ++ [carriageReturn]) = none := by
  have hblank : Text.trimEnd (Text.Utf8.decodeLossy [carriageReturn]) = [] :=
    trimEnd_append_return []
  rw [ofLine?, ← tokenBytes, valueAfter?_token_append_return h]
  simp [hblank]

/-! ### The lines of a file with carriage returns -/

@[simp] lemma withReturns_append (s t : List UInt8) :
    withReturns (s ++ t) = withReturns s ++ withReturns t :=
  List.flatMap_append

@[simp] lemma withReturns_feed (s : List UInt8) :
    withReturns (lineFeed :: s) = carriageReturn :: lineFeed :: withReturns s := rfl

lemma withReturns_of_notMem (h : lineFeed ∉ s) : withReturns s = s := by
  induction s with
  | nil => rfl
  | cons b rest ih =>
      rw [List.mem_cons, not_or] at h
      rw [withReturns, List.flatMap_cons, if_neg (Ne.symm h.1), ← withReturns, ih h.2]
      rfl

lemma mem_scan_iff {reference : ImageReference} :
    reference ∈ scan content ↔
      ∃ line ∈ Text.split (· == lineFeed) content, ofLine? line = some reference := by
  rw [scan, SortedSet.mem_ofList, List.mem_filterMap]
  rfl

/-- A scan finds what some line of the file names. -/
lemma mem_scan_iff_namedFrom {reference : ImageReference} :
    reference ∈ scan content ↔ ∃ start, NamedFrom content start reference := by
  simp only [mem_scan_iff, Text.mem_split_iff]
  constructor
  · rintro ⟨line, ⟨before, after, rfl, hbefore, hafter, hfree⟩, hnames⟩
    exact ⟨before.length, (namedFrom_iff_ofLine? hbefore hafter hfree).mpr hnames⟩
  · rintro ⟨start, hnamed⟩
    obtain ⟨before, line, after, rfl, hbefore, hafter, hfree, rfl⟩ := hnamed.exists_line
    exact ⟨line, ⟨before, after, rfl, hbefore, hafter, hfree⟩,
      (namedFrom_iff_ofLine? hbefore hafter hfree).mp hnamed⟩

/-- What a line names whose end has a carriage return, unless it ends with the file. -/
inductive NamedByLine (line : List UInt8) (reference : ImageReference) : List UInt8 → Prop
  | last (h : ofLine? line = some reference) : NamedByLine line reference []
  | ended (h : ofLine? (line ++ [carriageReturn]) = some reference) (rest : List UInt8) :
      NamedByLine line reference (lineFeed :: rest)

/-- Every line of a file with carriage returns comes from a line of the file without them. -/
lemma exists_line_of_mem_split {piece : List UInt8} {reference : ImageReference}
    (hpiece : piece ∈ Text.split (· == lineFeed) (withReturns content))
    (hnames : ofLine? piece = some reference) :
    ∃ before line after, content = before ++ line ++ after ∧ Text.EndsAt lineFeed before ∧
      lineFeed ∉ line ∧ NamedByLine line reference after := by
  -- the lines after the first one are those of a shorter file
  induction hlength : content.length using Nat.strong_induction_on generalizing content with
  | _ n ih =>
      by_cases hfeed : lineFeed ∈ content
      · obtain ⟨first, rest, rfl, hfirst⟩ := List.eq_append_cons_of_mem hfeed
        have hfree : lineFeed ∉ first ++ [carriageReturn] := by
          simp [hfirst, carriageReturn_ne_lineFeed.symm]
        have hlines : withReturns (first ++ lineFeed :: rest) =
            first ++ [carriageReturn] ++ lineFeed :: withReturns rest := by
          simp [withReturns_of_notMem hfirst]
        rw [hlines, Text.split_append, Text.split_eq_singleton hfree, List.singleton_append,
          List.mem_cons] at hpiece
        rcases hpiece with rfl | hpiece
        · exact ⟨[], first, lineFeed :: rest, by simp, Or.inl rfl, hfirst, .ended hnames rest⟩
        · have hshorter : rest.length < n := by
            rw [← hlength, List.length_append, List.length_cons]
            omega
          obtain ⟨before, line, after, rfl, hbefore, hline, hnamed⟩ :=
            ih rest.length hshorter hpiece rfl
          exact ⟨first ++ lineFeed :: before, line, after, by simp, hbefore.append_cons first,
            hline, hnamed⟩
      · rw [withReturns_of_notMem hfeed, Text.split_eq_singleton hfeed, List.mem_singleton]
          at hpiece
        exact ⟨[], content, [], by simp, Or.inl rfl, hfeed, .last (hpiece ▸ hnames)⟩

lemma endsAt_withReturns (h : Text.EndsAt lineFeed s) :
    Text.EndsAt lineFeed (withReturns s) := by
  obtain rfl | ⟨t, rfl⟩ := h
  · exact Or.inl rfl
  · exact Or.inr ⟨withReturns t ++ [carriageReturn], by simp [withReturns]⟩

/-- What a file with carriage returns names, told by the lines of the file without them. -/
lemma mem_scan_withReturns_iff {reference : ImageReference} :
    reference ∈ scan (withReturns content) ↔
      ∃ before line after, content = before ++ line ++ after ∧ Text.EndsAt lineFeed before ∧
        lineFeed ∉ line ∧ NamedByLine line reference after := by
  rw [mem_scan_iff]
  constructor
  · rintro ⟨piece, hpiece, hnames⟩
    exact exists_line_of_mem_split hpiece hnames
  · rintro ⟨before, line, after, rfl, hbefore, hfree, hnamed⟩
    have hbefore := endsAt_withReturns hbefore
    have hline := withReturns_of_notMem hfree
    cases hnamed with
    | last hnames =>
        refine ⟨line, ?_, hnames⟩
        rw [withReturns_append, withReturns_append, hline]
        exact Text.mem_split_of_between hbefore (Or.inl rfl) hfree
    | ended hnames rest =>
        refine ⟨line ++ [carriageReturn], ?_, hnames⟩
        have hparts : withReturns (before ++ line ++ lineFeed :: rest) =
            withReturns before ++ (line ++ [carriageReturn]) ++ lineFeed :: withReturns rest := by
          simp [hline]
        rw [hparts]
        refine Text.mem_split_of_between hbefore (Or.inr ⟨_, rfl⟩) ?_
        simp [hfree, carriageReturn_ne_lineFeed.symm]

/-! ### What the carriage returns hide -/

/-- The line from a position of a file on is ended by a line feed that directly follows a
token. -/
def FeedAfterToken (content : List UInt8) (start : ℕ) : Prop :=
  ∃ stop, LineOf content start stop ∧ content[stop]? = some lineFeed ∧
    tokenBytes <:+ (content.take stop).drop start

lemma feedAfterToken_iff {before after : List UInt8} (hbefore : Text.EndsAt lineFeed before)
    (hafter : Text.StartsAt lineFeed after) (hfree : lineFeed ∉ line) :
    FeedAfterToken (before ++ line ++ after) before.length ↔
      after ≠ [] ∧ tokenBytes <:+ line := by
  have hlineOf := lineOf_of_between hbefore hafter hfree
  have hvalue : ((before ++ line ++ after).take (before.length + line.length)).drop
      before.length = line := by
    rw [List.take_left' (by simp), List.drop_left]
  have hstop : (before ++ line ++ after)[before.length + line.length]? = after.head? := by
    rw [List.getElem?_append_right (by simp)]
    simp [List.head?_eq_getElem?]
  constructor
  · rintro ⟨stop, hline, hfeed, htoken⟩
    obtain rfl := hline.stop_unique hlineOf
    rw [hstop] at hfeed
    rw [hvalue] at htoken
    exact ⟨fun hnil => by simp [hnil] at hfeed, htoken⟩
  · rintro ⟨hne, htoken⟩
    refine ⟨_, hlineOf, ?_, by rwa [hvalue]⟩
    obtain rfl | ⟨rest, rfl⟩ := hafter
    · exact absurd rfl hne
    · exact hstop

/-- A carriage return before the line feed hides what a line names just if a token ends the
line. -/
lemma namedByLine_iff {before after : List UInt8} (hbefore : Text.EndsAt lineFeed before)
    (hafter : Text.StartsAt lineFeed after) (hfree : lineFeed ∉ line)
    {reference : ImageReference} :
    NamedByLine line reference after ↔
      NamedFrom (before ++ line ++ after) before.length reference ∧
        ¬FeedAfterToken (before ++ line ++ after) before.length := by
  rw [namedFrom_iff_ofLine? hbefore hafter hfree, feedAfterToken_iff hbefore hafter hfree, not_and]
  constructor
  · rintro (hnames | ⟨hnames, rest⟩)
    · exact ⟨hnames, fun hne => absurd rfl hne⟩
    · have hend : ¬tokenBytes <:+ line := fun htoken => by
        rw [ofLine?_token_append_return htoken] at hnames
        cases hnames
      exact ⟨ofLine?_append_return hend ▸ hnames, fun _ => hend⟩
  · rintro ⟨hnames, hend⟩
    obtain rfl | ⟨rest, rfl⟩ := hafter
    · exact .last hnames
    · exact .ended (by rwa [ofLine?_append_return (hend (by simp))]) rest

lemma NamedByLine.startsAt {reference : ImageReference} {after : List UInt8}
    (h : NamedByLine line reference after) : Text.StartsAt lineFeed after := by
  cases h with
  | last => exact Or.inl rfl
  | ended _ rest => exact Or.inr ⟨rest, rfl⟩

/-- A file with carriage returns before its line feeds names just the references on those lines
of the file without them that no line feed ends directly behind a token.  So both name the same
references just if each reference on a line that is ended so is also on a line that is not. -/
theorem scan_withReturns (content : List UInt8) :
    (∀ reference, reference ∈ scan (withReturns content) ↔
      ∃ start, NamedFrom content start reference ∧ ¬FeedAfterToken content start) ∧
    (scan (withReturns content) = scan content ↔
      ∀ reference start, NamedFrom content start reference → FeedAfterToken content start →
        ∃ other, NamedFrom content other reference ∧ ¬FeedAfterToken content other) := by
  have hmem (reference : ImageReference) : reference ∈ scan (withReturns content) ↔
      ∃ start, NamedFrom content start reference ∧ ¬FeedAfterToken content start := by
    rw [mem_scan_withReturns_iff]
    constructor
    · rintro ⟨before, line, after, rfl, hbefore, hfree, hnamed⟩
      exact ⟨before.length, (namedByLine_iff hbefore hnamed.startsAt hfree).mp hnamed⟩
    · rintro ⟨start, hnamed, hend⟩
      obtain ⟨before, line, after, rfl, hbefore, hafter, hfree, rfl⟩ := hnamed.exists_line
      exact ⟨before, line, after, rfl, hbefore, hfree,
        (namedByLine_iff hbefore hafter hfree).mpr ⟨hnamed, hend⟩⟩
  refine ⟨hmem, ?_⟩
  constructor
  · intro heq reference start hnamed _
    have hfound : reference ∈ scan content := mem_scan_iff_namedFrom.mpr ⟨start, hnamed⟩
    rw [← heq] at hfound
    exact (hmem reference).mp hfound
  · intro hother
    refine SortedSet.ext fun reference => ?_
    rw [hmem, mem_scan_iff_namedFrom]
    constructor
    · rintro ⟨start, hnamed, -⟩
      exact ⟨start, hnamed⟩
    · rintro ⟨start, hnamed⟩
      by_cases hend : FeedAfterToken content start
      · exact hother reference start hnamed hend
      · exact ⟨start, hnamed, hend⟩

/-- A line with a token at its end and another one before it. -/
def repeatedToken : List UInt8 := tokenBytes ++ [0x61] ++ tokenBytes ++ [lineFeed]

/-- A carriage return behind the second token of a line makes it the token that counts, and so
hides the reference that the first one names. -/
theorem return_hides_reference :
    carriageReturn ∉ repeatedToken ∧
      (scan repeatedToken).toList = [⟨"aCI_BUILD_CONTAINER="⟩] ∧
      (scan (withReturns repeatedToken)).toList = [] ∧
      scan (withReturns repeatedToken) ≠ scan repeatedToken := by
  have hplain : (scan repeatedToken).toList = [⟨"aCI_BUILD_CONTAINER="⟩] := by decide +kernel
  have hreturns : (scan (withReturns repeatedToken)).toList = [] := by decide +kernel
  refine ⟨by decide +kernel, hplain, hreturns, fun heq => ?_⟩
  rw [heq, hplain] at hreturns
  cases hreturns

end ImageRetention.Image
