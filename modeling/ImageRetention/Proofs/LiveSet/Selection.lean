import Mathlib.Tactic
import ImageRetention.LiveSet
import ImageRetention.Proofs.History.Asking
import ImageRetention.Proofs.Image.Selection
import ImageRetention.Proofs.Text.ByteOrder

/-!
Selecting tags from a set of references, whatever order the set is gone through in.

* `SortedSet.inOrder_eq_toList`: the members of a set in any order, put in the order of their
  labels;
* `Target.FirstMalformed`: the malformed reference of a set that is named in a failure, the least
  one in the order of bytes;
* `select_eq_error_iff`, `select_eq_ok_iff`: when selecting fails and succeeds, and with what;
* `selection_result`: selecting depends on the references to the repository only, and on nothing
  about the set but its members.
-/

namespace ImageRetention

/-! ### Members in any order -/

namespace SortedSet

variable {α : Type} [Labelled α]

/-- Values in the order of their labels. -/
def inOrder (values : List α) : List α :=
  values.mergeSort fun a b => label a ≤ label b

/-- The members of a set can be gone through in any order: put in the order of their labels they
are those of the set in its order. -/
lemma inOrder_eq_toList {set : SortedSet α} {values : List α} (h : values.Perm set.toList) :
    inOrder values = set.toList := by
  have hsorted : (inOrder values).Pairwise fun a b => label a ≤ label b := by
    refine (List.pairwise_mergeSort ?_ ?_ values).imp of_decide_eq_true
    · intro a b c hab hbc
      exact decide_eq_true (String.le_trans (of_decide_eq_true hab) (of_decide_eq_true hbc))
    · intro a b
      simpa using String.le_total (label a) (label b)
  have hascending : set.toList.Pairwise fun a b => label a ≤ label b :=
    set.ascending.imp fun hlt => String.not_lt.mp (String.lt_asymm hlt)
  have hantisymm (a b : α) (hab : label a ≤ label b) (hba : label b ≤ label a) : a = b :=
    Labelled.eq_of_label_eq (String.le_antisymm hab hba)
  exact ((List.mergeSort_perm values _).trans h).eq_of_pairwise
    (fun a b _ _ => hantisymm a b) hsorted hascending

end SortedSet

/-! ### When selecting fails and succeeds -/

/-- A reference is the malformed one of a set that comes first in the order of bytes. -/
structure Target.FirstMalformed (target : Target) (references : SortedSet ImageReference)
    (reference : ImageReference) : Prop where
  mem : reference ∈ references
  malformed : target.Malformed reference
  least : ∀ other ∈ references, target.Malformed other →
    Text.Utf8.bytesOf reference.text ≤ Text.Utf8.bytesOf other.text

namespace LiveSet

variable {σ : Type} {target : Target} {references : SortedSet ImageReference} {state : σ}

lemma result_select (target : Target) (references : SortedSet ImageReference) (state : σ) :
    (select target references state).result =
      ((target.tagsOf references.toList).mapError Failure.of).map SortedSet.ofList := by
  rw [select]
  cases target.tagsOf references.toList <;> rfl

lemma result_select_of_tagsOf {found : List ImageTag}
    (h : target.tagsOf references.toList = .ok found) :
    (select target references state).result = .ok (.ofList found) := by
  rw [result_select, h]
  rfl

/-- The first malformed reference in the order of a set is the least one. -/
lemma tagsOf_toList_eq_error_iff {cause : Cause} :
    target.tagsOf references.toList = .error cause ↔
      ∃ reference, target.FirstMalformed references reference ∧
        cause = .malformedReference reference.text := by
  have hascending := references.ascending
  rw [Target.tagsOf_eq_error_iff]
  constructor
  · rintro ⟨before, reference, after, hlist, hbefore, hjudge, rfl⟩
    rw [hlist, List.pairwise_append, List.pairwise_cons] at hascending
    obtain ⟨-, ⟨hafter, -⟩, -⟩ := hascending
    refine ⟨reference, ⟨?_, Target.malformed_iff_judge.mpr hjudge,
      fun other hother hmalformed => ?_⟩, rfl⟩
    · rw [SortedSet.mem_def, hlist]
      simp
    · rw [Text.Utf8.bytesOf_le_bytesOf_iff]
      rw [SortedSet.mem_def, hlist, List.mem_append, List.mem_cons] at hother
      rcases hother with hother | rfl | hother
      · exact absurd (Target.malformed_iff_judge.mp hmalformed) (hbefore other hother)
      · exact String.le_refl _
      · exact String.not_lt.mp (String.lt_asymm (hafter other hother))
  · rintro ⟨reference, hfirst, rfl⟩
    obtain ⟨before, after, hlist⟩ := List.append_of_mem hfirst.mem
    rw [hlist, List.pairwise_append] at hascending
    refine ⟨before, reference, after, hlist, fun other hother hjudge => ?_,
      Target.malformed_iff_judge.mp hfirst.malformed, rfl⟩
    have hlt : label other < label reference := hascending.2.2 other hother reference (by simp)
    have hmem : other ∈ references := by
      rw [SortedSet.mem_def, hlist]
      simp [hother]
    have hle := hfirst.least other hmem (Target.malformed_iff_judge.mpr hjudge)
    exact String.not_lt.mpr (Text.Utf8.bytesOf_le_bytesOf_iff.mp hle) hlt

/-- Selecting fails just if a reference is malformed, and names the first one of these. -/
lemma select_eq_error_iff {failure : Failure} :
    (select target references state).result = .error failure ↔
      ∃ reference, target.FirstMalformed references reference ∧
        failure = .of (.malformedReference reference.text) := by
  rw [result_select, map_mapError_eq_error]
  constructor
  · rintro ⟨cause, htags, rfl⟩
    obtain ⟨reference, hfirst, rfl⟩ := tagsOf_toList_eq_error_iff.mp htags
    exact ⟨reference, hfirst, rfl⟩
  · rintro ⟨reference, hfirst, rfl⟩
    exact ⟨_, tagsOf_toList_eq_error_iff.mpr ⟨reference, hfirst, rfl⟩, rfl⟩

/-- Of some malformed references in a set one is the first. -/
lemma exists_firstMalformed {reference : ImageReference} (hmem : reference ∈ references)
    (h : target.Malformed reference) : ∃ first, target.FirstMalformed references first := by
  cases htags : target.tagsOf references.toList with
  | error cause =>
      obtain ⟨first, hfirst, -⟩ := tagsOf_toList_eq_error_iff.mp htags
      exact ⟨first, hfirst⟩
  | ok tags =>
      exact absurd (Target.malformed_iff_judge.mp h) ((Target.tagsOf_eq_ok htags).1 reference hmem)

/-- Selecting succeeds just if no reference is malformed, and gives the tags of the references that
start like those to the repository. -/
lemma select_eq_ok_iff {tags : SortedSet ImageTag} :
    (select target references state).result = .ok tags ↔
      (∀ reference ∈ references, ¬target.Malformed reference) ∧
        ∀ tag, tag ∈ tags ↔
          ∃ reference ∈ references, target.Precedes reference ∧ reference.Names tag := by
  -- what the tags of a set without malformed references are
  have hnames {found : List ImageTag} (hfound : target.tagsOf references.toList = .ok found)
      (tag : ImageTag) : tag ∈ SortedSet.ofList found ↔
        ∃ reference ∈ references, target.Precedes reference ∧ reference.Names tag := by
    obtain ⟨hsound, hmem⟩ := Target.tagsOf_eq_ok hfound
    rw [SortedSet.mem_ofList, hmem]
    exact exists_congr fun reference => and_congr_right fun hreference =>
      Target.judge_eq_live_iff_names (hsound reference hreference)
  rw [result_select, map_mapError_eq_ok]
  constructor
  · rintro ⟨found, hfound, rfl⟩
    refine ⟨fun reference hreference hmalformed => ?_, hnames hfound⟩
    exact (Target.tagsOf_eq_ok hfound).1 reference hreference
      (Target.malformed_iff_judge.mp hmalformed)
  · rintro ⟨hnone, htags⟩
    cases hfound : target.tagsOf references.toList with
    | error cause =>
        obtain ⟨reference, hfirst, -⟩ := tagsOf_toList_eq_error_iff.mp hfound
        exact absurd hfirst.malformed (hnone reference hfirst.mem)
    | ok found =>
        exact ⟨found, rfl, SortedSet.ext fun tag => (hnames hfound tag).trans (htags tag).symm⟩

/-! ### References to other repositories -/

variable {others : SortedSet ImageReference}

/-- Two sets that agree on the references to a repository have the same first malformed one. -/
lemma firstMalformed_congr
    (h : ∀ reference, target.Precedes reference → (reference ∈ references ↔ reference ∈ others))
    {reference : ImageReference} (hfirst : target.FirstMalformed references reference) :
    target.FirstMalformed others reference := by
  refine ⟨(h reference hfirst.malformed.1).mp hfirst.mem, hfirst.malformed,
    fun other hother hmalformed => ?_⟩
  exact hfirst.least other ((h other hmalformed.1).mpr hother) hmalformed

/-- References to other repositories have no influence on what is selected. -/
lemma select_congr
    (h : ∀ reference, target.Precedes reference → (reference ∈ references ↔ reference ∈ others))
    (state state' : σ) :
    (select target others state').result = (select target references state).result := by
  cases hresult : (select target references state).result with
  | error failure =>
      obtain ⟨reference, hfirst, rfl⟩ := select_eq_error_iff.mp hresult
      exact select_eq_error_iff.mpr ⟨reference, firstMalformed_congr h hfirst, rfl⟩
  | ok tags =>
      obtain ⟨hnone, htags⟩ := select_eq_ok_iff.mp hresult
      refine select_eq_ok_iff.mpr ⟨fun reference hreference hmalformed => ?_, fun tag => ?_⟩
      · exact hnone reference ((h reference hmalformed.1).mpr hreference) hmalformed
      · rw [htags]
        refine exists_congr fun reference => ?_
        constructor
        · rintro ⟨hreference, hprecedes, hnames⟩
          exact ⟨(h reference hprecedes).mp hreference, hprecedes, hnames⟩
        · rintro ⟨hreference, hprecedes, hnames⟩
          exact ⟨(h reference hprecedes).mpr hreference, hprecedes, hnames⟩

end LiveSet

/-! ### What is selected -/

/-- Selecting tags from a set of references gives the same in whatever order the set is gone
through.  It fails just if a reference that starts like those to the repository has no colon, or
nothing after its first one, and then names the least of these references in the order of bytes.
Otherwise it gives the tags of the references that start so.  All other references have no
influence. -/
theorem selection_result {σ : Type} (target : Target) (references : SortedSet ImageReference)
    (state : σ) :
    (∀ iterated : List ImageReference, iterated.Perm references.toList →
      (LiveSet.select target references state).result =
        ((target.tagsOf (SortedSet.inOrder iterated)).mapError Failure.of).map
          SortedSet.ofList) ∧
    ((∃ failure, (LiveSet.select target references state).result = .error failure) ↔
      ∃ reference ∈ references, target.Malformed reference) ∧
    (∀ failure, (LiveSet.select target references state).result = .error failure ↔
      ∃ reference, target.FirstMalformed references reference ∧
        failure = .of (.malformedReference reference.text)) ∧
    (∀ tags, (LiveSet.select target references state).result = .ok tags ↔
      (∀ reference ∈ references, ¬target.Malformed reference) ∧
        ∀ tag, tag ∈ tags ↔
          ∃ reference ∈ references, target.Precedes reference ∧ reference.Names tag) ∧
    ∀ (others : SortedSet ImageReference) (state' : σ),
      (∀ reference, target.Precedes reference →
        (reference ∈ references ↔ reference ∈ others)) →
      (LiveSet.select target others state').result =
        (LiveSet.select target references state).result := by
  refine ⟨fun iterated hperm => ?_, ?_, fun failure => LiveSet.select_eq_error_iff,
    fun tags => LiveSet.select_eq_ok_iff,
    fun others state' h => LiveSet.select_congr h state state'⟩
  · rw [LiveSet.result_select, SortedSet.inOrder_eq_toList hperm]
  · constructor
    · rintro ⟨failure, hfailure⟩
      obtain ⟨reference, hfirst, -⟩ := LiveSet.select_eq_error_iff.mp hfailure
      exact ⟨reference, hfirst.mem, hfirst.malformed⟩
    · rintro ⟨reference, hmem, hmalformed⟩
      obtain ⟨first, hfirst⟩ := LiveSet.exists_firstMalformed hmem hmalformed
      exact ⟨_, LiveSet.select_eq_error_iff.mpr ⟨first, hfirst, rfl⟩⟩

/-- Of two malformed references, gone through in the wrong order, the lesser one is named, and a
malformed one to another registry changes nothing. -/
theorem selection_result_unordered :
    let target : Target := ⟨"bondciimages", "ubuntu-1604"⟩
    let bare : ImageReference := ⟨"bondciimages.azurecr.io/ubuntu-1604"⟩
    let blank : ImageReference := ⟨"bondciimages.azurecr.io/ubuntu-1604-extra:"⟩
    let foreign : ImageReference := ⟨"a bondciimages.azurecr.io/ubuntu-1604"⟩
    let references : SortedSet ImageReference := .ofList [bare, blank]
    let others : SortedSet ImageReference := .ofList [bare, blank, foreign]
    [blank, bare].Perm references.toList ∧
      (LiveSet.select target references ()).result =
        ((target.tagsOf (SortedSet.inOrder [blank, bare])).mapError Failure.of).map
          SortedSet.ofList ∧
      (LiveSet.select target references ()).result = .error (.of (.malformedReference bare.text)) ∧
      (∀ reference, target.Precedes reference → (reference ∈ references ↔ reference ∈ others)) ∧
      (LiveSet.select target others ()).result = (LiveSet.select target references ()).result := by
  intro target bare blank foreign references others
  obtain ⟨horder, -, herror, -, hforeign⟩ := selection_result target references ()
  have hperm : [blank, bare].Perm references.toList := by decide +kernel
  have hmalformed : target.Malformed bare := by
    rw [Target.malformed_iff_judge]
    decide +kernel
  have hfirst : target.FirstMalformed references bare := by
    refine ⟨by simp [references], hmalformed, fun other hother _ => ?_⟩
    obtain rfl | rfl : other = bare ∨ other = blank := by simpa [references] using hother
    · decide +kernel
    · decide +kernel
  have hagree (reference : ImageReference) (hprecedes : target.Precedes reference) :
      reference ∈ references ↔ reference ∈ others := by
    have hne : reference ≠ foreign := by
      rintro rfl
      rw [← Target.covers_iff] at hprecedes
      exact absurd hprecedes (by decide +kernel)
    simp [references, others, hne]
  exact ⟨hperm, horder _ hperm, (herror _).mpr ⟨bare, hfirst, rfl⟩, hagree,
    hforeign others () hagree⟩

end ImageRetention
