import Mathlib.Tactic
import ImageRetention.Image.Selection
import ImageRetention.Proofs.FirstFault

/-!
What references mean for the swept repository, in terms of their texts.

* `ImageReference.Names`: a tag is the text after the first colon of a reference;
* `judge_eq_live_iff`, `judge_eq_malformed_iff`: a reference that starts like those to the
  repository is live by its tag, or malformed if that tag is missing or empty;
* `Target.Malformed`: malformed is what has no colon, or nothing after its first one;
* `tagsOf_eq_readItems`: selecting goes through the references up to the first malformed one;
* `tagsOf_eq_ok`, `tagsOf_eq_error_iff`: what selecting gives, and that it fails for the first
  malformed reference.
-/

namespace ImageRetention

/-- The tag that a reference names: the text after its first colon. -/
def ImageReference.Names (reference : ImageReference) (tag : ImageTag) : Prop :=
  ∃ before, reference.text = before ++ ":" ++ tag.text ∧ ':' ∉ before.toList

lemma ImageReference.tag?_eq_some_iff {reference : ImageReference} {tag : ImageTag} :
    reference.tag? = some tag ↔ reference.Names tag := by
  constructor
  · intro h
    obtain ⟨⟨before, after⟩, hsplit, rfl⟩ := Option.map_eq_some_iff.mp h
    obtain ⟨htext, hbefore⟩ := Text.eq_of_splitOnce? hsplit
    refine ⟨String.ofList before, ?_, by simpa using hbefore⟩
    rw [← String.toList_inj]
    simpa using htext
  · rintro ⟨before, htext, hbefore⟩
    have hlist : reference.text.toList = before.toList ++ ':' :: tag.text.toList := by
      simp [htext]
    rw [ImageReference.tag?, hlist, Text.splitOnce?_append_cons hbefore]
    simp

/-- A reference has at most one tag. -/
lemma ImageReference.Names.unique {reference : ImageReference} {tag other : ImageTag}
    (h : reference.Names tag) (h' : reference.Names other) : tag = other := by
  rw [← ImageReference.tag?_eq_some_iff] at h h'
  exact Option.some.inj (h.symm.trans h')

lemma ImageReference.Names.mem {reference : ImageReference} {tag : ImageTag}
    (h : reference.Names tag) : ':' ∈ reference.text.toList := by
  obtain ⟨before, htext, -⟩ := h
  simp [htext]

/-- A reference with a colon names a tag. -/
lemma ImageReference.exists_names {reference : ImageReference}
    (h : ':' ∈ reference.text.toList) : ∃ tag, reference.Names tag := by
  obtain ⟨before, after, htext, hbefore⟩ := List.eq_append_cons_of_mem h
  refine ⟨⟨String.ofList after⟩, String.ofList before, ?_, by simpa using hbefore⟩
  rw [← String.toList_inj]
  simpa using htext

namespace Target

/-- Whether a reference starts like those to images of the repository. -/
def Precedes (target : Target) (reference : ImageReference) : Prop :=
  ∃ rest, reference.text = target.expectedPrefix ++ rest

lemma covers_iff {target : Target} {reference : ImageReference} :
    target.covers reference = true ↔ target.Precedes reference := by
  rw [covers, List.isPrefixOf_iff_prefix]
  constructor
  · rintro ⟨rest, hrest⟩
    refine ⟨String.ofList rest, ?_⟩
    rw [← String.toList_inj]
    simpa using hrest.symm
  · rintro ⟨rest, hrest⟩
    exact ⟨rest.toList, by simp [hrest]⟩

/-! ### The meaning of one reference -/

lemma judge_eq_live_iff {target : Target} {reference : ImageReference} {tag : ImageTag} :
    target.judge reference = .live tag ↔
      target.Precedes reference ∧ reference.Names tag ∧ tag.text ≠ "" := by
  rw [← covers_iff, ← ImageReference.tag?_eq_some_iff, judge]
  split
  · rename_i hcovers
    cases htag : reference.tag? with
    | none => simp
    | some other =>
        by_cases hempty : other.text = ""
        · simp only [hempty, if_true, reduceCtorEq, false_iff, not_and, Option.some.injEq]
          rintro - rfl
          simpa using hempty
        · simp only [hempty, if_false, Verdict.live.injEq, Option.some.injEq, hcovers, true_and]
          exact ⟨fun h => ⟨h, h ▸ hempty⟩, fun h => h.1⟩
  · rename_i hcovers
    simp [hcovers]

lemma judge_eq_malformed_iff {target : Target} {reference : ImageReference} :
    target.judge reference = .malformed ↔
      target.Precedes reference ∧ ¬∃ tag, reference.Names tag ∧ tag.text ≠ "" := by
  simp only [← covers_iff, ← ImageReference.tag?_eq_some_iff, judge]
  split
  · rename_i hcovers
    cases htag : reference.tag? with
    | none => simp [hcovers]
    | some other => by_cases hempty : other.text = "" <;> simp [hcovers, hempty]
  · rename_i hcovers
    simp [hcovers]

/-- A reference that is not malformed is live by any tag that it names. -/
lemma judge_eq_live_iff_names {target : Target} {reference : ImageReference} {tag : ImageTag}
    (h : target.judge reference ≠ .malformed) :
    target.judge reference = .live tag ↔ target.Precedes reference ∧ reference.Names tag := by
  rw [judge_eq_live_iff]
  refine and_congr_right fun hprecedes => ⟨And.left, fun hnames => ⟨hnames, ?_⟩⟩
  rw [Ne, judge_eq_malformed_iff, not_and, not_not] at h
  obtain ⟨other, hother, hne⟩ := h hprecedes
  rwa [hnames.unique hother]

/-- A reference starts like those to the repository, and it has no colon, or nothing after its
first one. -/
def Malformed (target : Target) (reference : ImageReference) : Prop :=
  target.Precedes reference ∧ (':' ∉ reference.text.toList ∨ reference.Names ⟨""⟩)

lemma malformed_iff_judge {target : Target} {reference : ImageReference} :
    target.Malformed reference ↔ target.judge reference = .malformed := by
  rw [judge_eq_malformed_iff, Malformed]
  refine and_congr_right fun _ => ⟨?_, fun hnone => ?_⟩
  · rintro hmalformed ⟨tag, htag, hne⟩
    rcases hmalformed with hcolon | hempty
    · exact hcolon htag.mem
    · exact hne (by rw [htag.unique hempty])
  · by_cases hcolon : ':' ∈ reference.text.toList
    · obtain ⟨tag, htag⟩ := ImageReference.exists_names hcolon
      have hempty : tag.text = "" := by
        by_contra hne
        exact hnone ⟨tag, htag, hne⟩
      obtain rfl : tag = ⟨""⟩ := by rw [← hempty]
      exact Or.inr htag
    · exact Or.inl hcolon

/-! ### The meaning of many -/

section Many

variable {target : Target} {references : List ImageReference} {tags : List ImageTag}
  {cause : Cause}

/-- The fault of a reference: that it is malformed. -/
def fault? (target : Target) (reference : ImageReference) : Option Cause :=
  if target.judge reference = .malformed then some (.malformedReference reference.text) else none

/-- The tag by which a reference is live. -/
def liveTag? (target : Target) (reference : ImageReference) : Option ImageTag :=
  match target.judge reference with
  | .live tag => some tag
  | _ => none

lemma fault?_eq_none_iff {reference : ImageReference} :
    target.fault? reference = none ↔ target.judge reference ≠ .malformed := by
  simp [fault?]

lemma fault?_eq_some_iff {reference : ImageReference} :
    target.fault? reference = some cause ↔
      target.judge reference = .malformed ∧ cause = .malformedReference reference.text := by
  rw [fault?]
  split <;> simp_all [eq_comm]

lemma liveTag?_eq_some_iff {reference : ImageReference} {tag : ImageTag} :
    target.liveTag? reference = some tag ↔ target.judge reference = .live tag := by
  rw [liveTag?]
  cases target.judge reference <;> simp

/-- References are gone through up to the first malformed one, which is the fault; without one,
they give the tags by which they are live. -/
theorem tagsOf_eq_readItems (target : Target) (references : List ImageReference) :
    target.tagsOf references = readItems target.fault? target.liveTag? references := by
  induction references with
  | nil => rfl
  | cons reference rest ih =>
      rw [tagsOf, readItems_cons, ← ih, fault?, liveTag?]
      cases target.judge reference with
      | foreign => cases target.tagsOf rest <;> rfl
      | malformed => rfl
      | live tag => cases target.tagsOf rest <;> rfl

/-- If tags are selected then no reference is malformed, and the tags are those of all live
references. -/
lemma tagsOf_eq_ok (h : target.tagsOf references = .ok tags) :
    (∀ reference ∈ references, target.judge reference ≠ .malformed) ∧
      ∀ tag, tag ∈ tags ↔ ∃ reference ∈ references, target.judge reference = .live tag := by
  rw [tagsOf_eq_readItems, readItems_eq_ok_iff] at h
  obtain ⟨hnone, rfl⟩ := h
  refine ⟨fun reference hmem => fault?_eq_none_iff.mp (hnone reference hmem), fun tag => ?_⟩
  simp only [List.mem_filterMap, liveTag?_eq_some_iff]

/-- No tags are selected just if one of the references is malformed, and the first one of these
is named. -/
lemma tagsOf_eq_error_iff :
    target.tagsOf references = .error cause ↔
      ∃ before reference after, references = before ++ reference :: after ∧
        (∀ other ∈ before, target.judge other ≠ .malformed) ∧
        target.judge reference = .malformed ∧ cause = .malformedReference reference.text := by
  simp only [tagsOf_eq_readItems, readItems_eq_error_iff, fault?_eq_none_iff, fault?_eq_some_iff]

/-- If no tags are selected then one of the references is malformed, and named. -/
lemma tagsOf_eq_error (h : target.tagsOf references = .error cause) :
    ∃ reference ∈ references, target.judge reference = .malformed ∧
      cause = .malformedReference reference.text := by
  obtain ⟨before, reference, after, rfl, -, hjudge, hcause⟩ := tagsOf_eq_error_iff.mp h
  exact ⟨reference, by simp, hjudge, hcause⟩

end Many

end Target

end ImageRetention
