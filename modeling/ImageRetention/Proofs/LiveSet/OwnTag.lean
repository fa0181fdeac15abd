import Mathlib.Tactic
import ImageRetention.CommandLine.Parser
import ImageRetention.Proofs.LiveSet.Selection
import ImageRetention.Proofs.LiveSet.Union

/-!
Tags as what follows the name of the repository.

* `Target.TaggedBy`: a reference starts like those to the repository, and after that a tag follows
  its next colon;
* `Target.ColonFree`: neither name of a repository has a colon;
* `precedes_names_iff_taggedBy`: for such a repository the tag of a reference is what follows
  there;
* `precedes_names_iff_of_colon`: for any other one the tag starts within the name;
* `tag_follows_repository`: the tags that are selected are those behind the name of the repository
  just if that has no colon, and then they protect the images that they are the tags of;
* `colon_hides_tag`: an image of a repository with a colon in its name that is not protected.

How references to a repository start is looked at as a whole, but a tag is cut off at the first
colon of a reference.
-/

namespace ImageRetention

namespace Target

/-- A reference starts like those to the repository, and after that its next colon is followed by
a tag. -/
def TaggedBy (target : Target) (reference : ImageReference) (tag : ImageTag) : Prop :=
  tag.text ≠ "" ∧
    ∃ s, reference.text = target.expectedPrefix ++ s ++ ":" ++ tag.text ∧ ':' ∉ s.toList

/-- Neither the name of the registry nor that of the repository has a colon. -/
def ColonFree (target : Target) : Prop :=
  ':' ∉ target.registry.toList ∧ ':' ∉ target.repository.toList

instance (target : Target) : Decidable target.ColonFree :=
  inferInstanceAs (Decidable (_ ∧ _))

variable {target : Target} {reference : ImageReference} {tag : ImageTag}

lemma colonFree_iff : target.ColonFree ↔ ':' ∉ target.expectedPrefix.toList := by
  simp [ColonFree, expectedPrefix, domainSuffix]

/-- The reference to an image of the repository by its tag alone. -/
def referenceTo (target : Target) (tag : ImageTag) : ImageReference :=
  ⟨target.expectedPrefix ++ ":" ++ tag.text⟩

lemma taggedBy_referenceTo (h : tag.text ≠ "") : target.TaggedBy (target.referenceTo tag) tag :=
  ⟨h, "", by simp [referenceTo], by simp⟩

/-- If the names have no colon then the first colon of a reference stands behind them. -/
lemma precedes_names_iff_taggedBy (h : target.ColonFree) (hne : tag.text ≠ "") :
    target.Precedes reference ∧ reference.Names tag ↔ target.TaggedBy reference tag := by
  rw [colonFree_iff] at h
  constructor
  · rintro ⟨⟨rest, hrest⟩, before, hbefore, hfree⟩
    have hlist : target.expectedPrefix.toList ++ rest.toList =
        before.toList ++ ':' :: tag.text.toList := by
      simpa using congrArg String.toList (hrest.symm.trans hbefore)
    obtain ⟨s, hs, -⟩ | ⟨s, hs, hcolon⟩ := List.append_eq_append_iff.mp hlist
    · refine ⟨hne, String.ofList s, ?_, ?_⟩
      · rw [hbefore, ← String.toList_inj]
        simp [hs]
      · rw [hs, List.mem_append, not_or] at hfree
        simpa using hfree.2
    · cases s with
      | nil =>
          refine ⟨hne, "", ?_, by simp⟩
          rw [hbefore, ← String.toList_inj]
          simpa using hs.symm
      | cons c s =>
          have hc : c = ':' := (List.cons.inj hcolon).1.symm
          exact absurd (by simp [hs, hc]) h
  · rintro ⟨-, s, htext, hfree⟩
    refine ⟨⟨s ++ ":" ++ tag.text, by simp [htext, String.append_assoc]⟩,
      target.expectedPrefix ++ s, htext, ?_⟩
    simp [h, hfree]

/-- If the names have a colon then the tag of a reference is what follows the first one in them. -/
lemma precedes_names_iff_of_colon {before after : String}
    (h : target.expectedPrefix = before ++ ":" ++ after) (hfree : ':' ∉ before.toList) :
    target.Precedes reference ∧ reference.Names tag ↔
      ∃ s, reference.text = target.expectedPrefix ++ s ∧ tag.text = after ++ s := by
  have hnames {s : String} (hs : reference.text = target.expectedPrefix ++ s) :
      reference.Names ⟨after ++ s⟩ :=
    ⟨before, by rw [hs, h, String.append_assoc], hfree⟩
  constructor
  · rintro ⟨⟨s, hs⟩, htag⟩
    exact ⟨s, hs, by rw [htag.unique (hnames hs)]⟩
  · rintro ⟨s, hs, htag⟩
    obtain rfl : tag = ⟨after ++ s⟩ := by rw [← htag]
    exact ⟨⟨s, hs⟩, hnames hs⟩

lemma exists_colon (h : ¬target.ColonFree) :
    ∃ before after, target.expectedPrefix = before ++ ":" ++ after ∧ ':' ∉ before.toList := by
  rw [colonFree_iff, not_not] at h
  obtain ⟨before, after, htext, hbefore⟩ := List.eq_append_cons_of_mem h
  refine ⟨String.ofList before, String.ofList after, ?_, by simpa using hbefore⟩
  rw [← String.toList_inj]
  simpa using htext

end Target

/-! ### What is selected -/

section Selected

variable {σ : Type} {target : Target} {references : SortedSet ImageReference} {state : σ}
  {tags : SortedSet ImageTag}

/-- If the names have no colon then the selected tags are those behind them. -/
lemma mem_select_iff_taggedBy (hfree : target.ColonFree)
    (h : (LiveSet.select target references state).result = .ok tags) (tag : ImageTag) :
    tag ∈ tags ↔ ∃ reference ∈ references, target.TaggedBy reference tag := by
  obtain ⟨hnone, htags⟩ := LiveSet.select_eq_ok_iff.mp h
  rw [htags]
  refine exists_congr fun reference => and_congr_right fun hreference => ?_
  constructor
  · rintro ⟨hprecedes, hnames⟩
    have hne : tag.text ≠ "" := by
      intro hempty
      obtain rfl : tag = ⟨""⟩ := by rw [← hempty]
      exact hnone reference hreference ⟨hprecedes, Or.inr hnames⟩
    exact (Target.precedes_names_iff_taggedBy hfree hne).mp ⟨hprecedes, hnames⟩
  · intro htagged
    exact (Target.precedes_names_iff_taggedBy hfree htagged.1).mpr htagged

/-- If the names have a colon then the selected tags start behind the first one in them. -/
lemma mem_select_iff_of_colon {before after : String}
    (hcut : target.expectedPrefix = before ++ ":" ++ after) (hbefore : ':' ∉ before.toList)
    (h : (LiveSet.select target references state).result = .ok tags) (tag : ImageTag) :
    tag ∈ tags ↔ ∃ reference ∈ references, ∃ s,
      reference.text = target.expectedPrefix ++ s ∧ tag.text = after ++ s := by
  rw [(LiveSet.select_eq_ok_iff.mp h).2]
  exact exists_congr fun reference => and_congr_right fun _ =>
    Target.precedes_names_iff_of_colon hcut hbefore

/-- If the names have a colon then an image by its tag alone keeps another tag alive. -/
lemma exists_select_of_colon (h : ¬target.ColonFree) (state : σ) (tag : ImageTag) :
    ∃ tags, (LiveSet.select target (.ofList [target.referenceTo tag]) state).result = .ok tags ∧
      tag ∉ tags := by
  obtain ⟨before, after, hcut, hbefore⟩ := Target.exists_colon h
  have hnames (other : ImageTag) :
      target.Precedes (target.referenceTo tag) ∧ (target.referenceTo tag).Names other ↔
        other.text = after ++ ":" ++ tag.text := by
    rw [Target.precedes_names_iff_of_colon hcut hbefore]
    constructor
    · rintro ⟨s, hs, hother⟩
      obtain rfl : s = ":" ++ tag.text := by
        simpa [Target.referenceTo, String.append_assoc] using hs.symm
      rw [hother, String.append_assoc]
    · intro hother
      exact ⟨":" ++ tag.text, by simp [Target.referenceTo, String.append_assoc],
        by rw [hother, String.append_assoc]⟩
  have hlonger : tag.text ≠ after ++ ":" ++ tag.text := by
    intro heq
    have hlength := congrArg String.length heq
    simp only [String.length_append] at hlength
    have hone : ":".length = 1 := rfl
    omega
  refine ⟨.ofList [⟨after ++ ":" ++ tag.text⟩], LiveSet.select_eq_ok_iff.mpr ⟨?_, ?_⟩, ?_⟩
  · intro reference hreference hmalformed
    obtain rfl : reference = target.referenceTo tag := by simpa using hreference
    have hown := ((hnames ⟨after ++ ":" ++ tag.text⟩).mpr rfl).2
    rcases hmalformed.2 with hcolon | hempty
    · exact hcolon hown.mem
    · simpa using congrArg ImageTag.text (hown.unique hempty)
  · intro other
    simp only [SortedSet.mem_ofList, List.mem_singleton, exists_eq_left, hnames]
    exact ⟨congrArg ImageTag.text, fun htext => by rw [← htext]⟩
  · rw [SortedSet.mem_ofList, List.mem_singleton]
    intro heq
    exact hlonger (congrArg ImageTag.text heq)

end Selected

/-! ### Images protected by their own tags -/

/-- The tags that are selected are those that follow behind the name of the repository, whatever
the references, just if neither the name of the registry nor that of the repository has a colon.
If one has, the tags are those behind the first colon in the names.  If none has, an image that a
live commit names by its tag is protected by it. -/
theorem tag_follows_repository {σ : Type} (settings : Settings) (state : σ) :
    ((∀ references tags,
        (LiveSet.select settings.target references state).result = .ok tags →
        ∀ tag, tag ∈ tags ↔ ∃ reference ∈ references, settings.target.TaggedBy reference tag) ↔
      settings.target.ColonFree) ∧
    (∀ before after, settings.target.expectedPrefix = before ++ ":" ++ after →
      ':' ∉ before.toList → ∀ references tags,
        (LiveSet.select settings.target references state).result = .ok tags →
        ∀ tag, tag ∈ tags ↔ ∃ reference ∈ references, ∃ s,
          reference.text = settings.target.expectedPrefix ++ s ∧ tag.text = after ++ s) ∧
    (settings.target.ColonFree → ∀ tag : ImageTag, tag.text ≠ "" →
      (∀ references tags,
        (LiveSet.select settings.target references state).result = .ok tags →
        settings.target.referenceTo tag ∈ references → tag ∈ tags) ∧
      ∀ (history : History σ) (answers : History.Answers), history.Gives answers →
        ∀ (schedules : Schedules) (roots : List RootFilter) (tags : SortedSet ImageTag),
          (liveTags history schedules settings roots state).result = .ok tags →
          answers.Refers settings.trackedPath roots (settings.target.referenceTo tag) →
          tag ∈ tags ∧ ∀ (minAge : Int) (now : Instant) (listing : List Manifest),
            ∀ manifest ∈ (Retention.mk tags minAge now).garbage listing,
              tag.text ∉ manifest.tags) := by
  refine ⟨⟨fun hlaw => ?_, fun hfree references tags h => mem_select_iff_taggedBy hfree h⟩,
    fun before after hcut hbefore references tags h => mem_select_iff_of_colon hcut hbefore h,
    fun hfree tag hne => ⟨fun references tags h hmem => ?_, ?_⟩⟩
  · by_contra hcolon
    obtain ⟨tags, htags, hmem⟩ := exists_select_of_colon hcolon state ⟨"t"⟩
    refine hmem ((hlaw _ tags htags ⟨"t"⟩).mpr
      ⟨settings.target.referenceTo ⟨"t"⟩, by simp, Target.taggedBy_referenceTo (by simp)⟩)
  · exact (mem_select_iff_taggedBy hfree h tag).mpr
      ⟨_, hmem, Target.taggedBy_referenceTo hne⟩
  · intro history answers hgives schedules roots tags htags hrefers
    have hlive : tag ∈ tags := by
      rw [((liveTags_eq_ok_iff hgives schedules state).mp htags).2]
      exact ⟨_, hrefers, (Target.precedes_names_iff_taggedBy hfree hne).mpr
        (Target.taggedBy_referenceTo hne)⟩
    refine ⟨hlive, fun minAge now listing manifest hgarbage hmem => ?_⟩
    obtain ⟨-, hunprotected⟩ := Retention.mem_garbage_iff.mp hgarbage
    exact hunprotected (Or.inl ⟨tag.text, hmem, hlive⟩)

/-- A commit that names an image of the standard repository keeps its tag, and so the image. -/
theorem tag_follows_repository_memory :
    let memory := (({} : History.Memory).withRoot ["master"] ["c1"]).withBlob "c1" "b1"
      "CI_BUILD_CONTAINER=bondciimages.azurecr.io/ubuntu-1604:v1\n"
    let history : History Unit := memory.answers.history
    let settings := Settings.standard 10
    let roots : List RootFilter := [⟨["master"]⟩]
    let own := settings.target.referenceTo ⟨"v1"⟩
    settings.target.ColonFree ∧ history.Gives memory.answers ∧
      memory.answers.Refers settings.trackedPath roots own ∧
      (∃ tags, (LiveSet.select settings.target (.ofList [own]) ()).result = .ok tags ∧
        ⟨"v1"⟩ ∈ tags) ∧
      ∃ tags, (liveTags history .inOrder settings roots ()).result = .ok tags ∧ ⟨"v1"⟩ ∈ tags ∧
        ∀ (minAge : Int) (now : Instant) (listing : List Manifest),
          ∀ manifest ∈ (Retention.mk tags minAge now).garbage listing, "v1" ∉ manifest.tags := by
  intro memory history settings roots own
  obtain ⟨-, -, hown⟩ := tag_follows_repository settings ()
  have hfree : settings.target.ColonFree := by decide +kernel
  obtain ⟨hselected, hprotected⟩ := hown hfree ⟨"v1"⟩ (by decide)
  have hgives : history.Gives memory.answers := memory.answers.gives
  have hselects : memory.answers.Selects roots ⟨"c1"⟩ := by
    refine ⟨⟨["master"]⟩, by simp [roots], "c1\n", rfl, "c1".toList, by decide +kernel, ?_, ?_⟩
    · decide +kernel
    · decide +kernel
  have htracks : memory.answers.Tracks settings.trackedPath roots ⟨"b1"⟩ := by
    refine ⟨⟨"c1"⟩, hselects, "100644 blob b1\t.travis.yml\n", rfl,
      "100644 blob b1\t.travis.yml".toList, by decide +kernel, "100644".toList,
      [".travis.yml".toList], ?_⟩
    decide +kernel
  have hrefers : memory.answers.Refers settings.trackedPath roots own := by
    refine ⟨⟨"b1"⟩, htracks, _, rfl, ?_⟩
    rw [← SortedSet.contains_iff]
    decide +kernel
  have htags : settings.target.tagsOf (SortedSet.ofList [own]).toList = .ok [⟨"v1"⟩] := by
    decide +kernel
  have hselect : (LiveSet.select settings.target (.ofList [own]) ()).result =
      .ok (.ofList [⟨"v1"⟩]) := LiveSet.result_select_of_tagsOf htags
  have hfound : ((liveTags history .inOrder settings roots ()).result.map
      SortedSet.toList).toOption = some [⟨"v1"⟩] := by
    decide +kernel
  refine ⟨hfree, hgives, hrefers, ⟨_, hselect, hselected _ _ hselect ?_⟩, ?_⟩
  · exact SortedSet.mem_ofList.mpr List.mem_cons_self
  · cases hresult : (liveTags history .inOrder settings roots ()).result with
    | error failure =>
        rw [hresult] at hfound
        cases hfound
    | ok tags =>
        exact ⟨tags, rfl, hprotected history _ hgives .inOrder roots tags hresult hrefers⟩

/-- A command line can name a repository with a colon.  The reference to an image of it by its tag
alone keeps another tag alive, so the image is garbage. -/
theorem colon_hides_tag :
    let arguments := ["-p", ".", "-m", "0", "--registry", "a", "--repository", "b:c", "HEAD"]
    let manifest : Manifest :=
      ⟨"d", ["t"], ⟨0, 0, 0, by decide, by decide, by decide, by decide, by decide⟩⟩
    let now : Instant := ⟨1, 0, 0, by decide, by decide, by decide, by decide, by decide⟩
    ∃ commandLine, CommandLine.ofArguments arguments = .ok commandLine ∧
      ∃ target, ((Settings.standard 10).changed commandLine.changes).target = target ∧
        target.referenceTo ⟨"t"⟩ = ⟨"a.azurecr.io/b:c:t"⟩ ∧
        target.TaggedBy (target.referenceTo ⟨"t"⟩) ⟨"t"⟩ ∧
        ∃ tags, (LiveSet.select target (.ofList [target.referenceTo ⟨"t"⟩]) ()).result = .ok tags ∧
          ⟨"t"⟩ ∉ tags ∧ manifest ∈ (Retention.mk tags 0 now).garbage [manifest] := by
  intro arguments manifest now
  let target : Target := ⟨"a", "b:c"⟩
  have hread : CommandLine.ofArguments arguments = .ok
      ⟨".", [⟨["HEAD"]⟩], 0, none, .warning, none, ⟨some "a", some "b:c", none, none⟩, false⟩ := by
    decide +kernel
  have htags : target.tagsOf (SortedSet.ofList [target.referenceTo ⟨"t"⟩]).toList =
      .ok [⟨"c:t"⟩] := by
    decide +kernel
  have hgarbage : manifest ∈ (Retention.mk (.ofList [⟨"c:t"⟩]) 0 now).garbage [manifest] := by
    decide +kernel
  exact ⟨_, hread, target, rfl, by decide +kernel, Target.taggedBy_referenceTo (by decide), _,
    LiveSet.result_select_of_tagsOf htags, by simp, hgarbage⟩

end ImageRetention
