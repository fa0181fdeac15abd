import Mathlib.Tactic
import ImageRetention.Proofs.Collection.Digests
import ImageRetention.Proofs.LiveSet.Meaning

/-!
What more root filters and a larger minimum age do.

* `Answers.selects_iff`, `Answers.tracks_iff`, `Answers.refers_iff`, `Answers.complete_iff`: the
  meaning of a list of root filters is put together from those of its members;
* `liveTags_eq_ok_iff`: a resolution gives just the tags that the answers make live, if they
  leave nothing open;
* `liveTags_congr`, `liveTags_append`: root filters with the same members, and root filters that
  are put together;
* `Retention.garbage_union`, `Retention.garbage_sublist`: garbage for the union of two sets of
  tags, and for a larger minimum age;
* `more_roots_protect`: root filters that are put together protect what any of them protects.

Nothing about a list of root filters matters but its members, because each stage takes its input
as a set.  So all of this is about single root filters in the end.
-/

namespace ImageRetention

/-! ### Root filters by themselves -/

namespace History.Answers

variable {answers : Answers} {settings : Settings} {path : String} {roots : List RootFilter}

/-- The answers make a tag live. -/
def Live (answers : Answers) (settings : Settings) (roots : List RootFilter) (tag : ImageTag) :
    Prop :=
  ∃ reference, answers.Refers settings.trackedPath roots reference ∧
    settings.target.Precedes reference ∧ reference.Names tag

lemma selects_iff {commit : CommitId} :
    answers.Selects roots commit ↔ ∃ root ∈ roots, answers.Selects [root] commit := by
  simp [Selects]

lemma tracks_iff {object : ObjectId} :
    answers.Tracks path roots object ↔ ∃ root ∈ roots, answers.Tracks path [root] object := by
  constructor
  · rintro ⟨commit, hcommit, hlisting⟩
    obtain ⟨root, hroot, hselects⟩ := selects_iff.mp hcommit
    exact ⟨root, hroot, commit, hselects, hlisting⟩
  · rintro ⟨root, hroot, commit, hselects, hlisting⟩
    exact ⟨commit, selects_iff.mpr ⟨root, hroot, hselects⟩, hlisting⟩

lemma refers_iff {reference : ImageReference} :
    answers.Refers path roots reference ↔
      ∃ root ∈ roots, answers.Refers path [root] reference := by
  constructor
  · rintro ⟨object, hobject, hcontent⟩
    obtain ⟨root, hroot, htracks⟩ := tracks_iff.mp hobject
    exact ⟨root, hroot, object, htracks, hcontent⟩
  · rintro ⟨root, hroot, object, htracks, hcontent⟩
    exact ⟨object, tracks_iff.mpr ⟨root, hroot, htracks⟩, hcontent⟩

lemma live_iff (roots : List RootFilter) {tag : ImageTag} :
    answers.Live settings roots tag ↔ ∃ root ∈ roots, answers.Live settings [root] tag := by
  constructor
  · rintro ⟨reference, hrefers, htag⟩
    obtain ⟨root, hroot, halone⟩ := refers_iff.mp hrefers
    exact ⟨root, hroot, reference, halone, htag⟩
  · rintro ⟨root, hroot, reference, halone, htag⟩
    exact ⟨reference, refers_iff.mpr ⟨root, hroot, halone⟩, htag⟩

/-- The answers are readable just if they are for every root filter. -/
lemma readable_iff (roots : List RootFilter) :
    answers.Readable path roots ↔ ∀ root ∈ roots, answers.Readable path [root] := by
  constructor
  · intro h root hroot
    refine ⟨fun other hother => ?_, fun commit hcommit => ?_, fun object hobject => ?_⟩
    · exact h.commits other (List.mem_singleton.mp hother ▸ hroot)
    · exact h.trees commit (selects_iff.mpr ⟨root, hroot, hcommit⟩)
    · exact h.contents object (tracks_iff.mpr ⟨root, hroot, hobject⟩)
  · intro h
    refine ⟨fun root hroot => (h root hroot).commits root (by simp), fun commit hcommit => ?_,
      fun object hobject => ?_⟩
    · obtain ⟨root, hroot, hselects⟩ := selects_iff.mp hcommit
      exact (h root hroot).trees commit hselects
    · obtain ⟨root, hroot, htracks⟩ := tracks_iff.mp hobject
      exact (h root hroot).contents object htracks

/-- The answers leave nothing open just if they leave nothing open about any root filter. -/
lemma complete_iff (roots : List RootFilter) :
    answers.Complete settings roots ↔ ∀ root ∈ roots, answers.Complete settings [root] := by
  constructor
  · intro h root hroot
    refine ⟨(readable_iff roots).mp h.toReadable root hroot, fun reference hreference => ?_⟩
    exact h.references reference (refers_iff.mpr ⟨root, hroot, hreference⟩)
  · intro h
    refine ⟨(readable_iff roots).mpr fun root hroot => (h root hroot).toReadable,
      fun reference hreference => ?_⟩
    obtain ⟨root, hroot, hrefers⟩ := refers_iff.mp hreference
    exact (h root hroot).references reference hrefers

end History.Answers

/-! ### Live tags -/

section LiveTags

variable {σ : Type} {history : History σ} {answers : History.Answers} {settings : Settings}
  {roots others first second : List RootFilter} {tags : SortedSet ImageTag}

/-- Either the answers leave nothing open, and a resolution gives the tags that they make live,
or they leave something open, and it fails. -/
lemma liveTags_cases (h : history.Gives answers) (schedules : Schedules) (settings : Settings)
    (roots : List RootFilter) (state : σ) :
    (∃ tags, (liveTags history schedules settings roots state).result = .ok tags ∧
      answers.Complete settings roots ∧ ∀ tag, tag ∈ tags ↔ answers.Live settings roots tag) ∨
    ∃ failure, (liveTags history schedules settings roots state).result = .error failure ∧
      ¬answers.Complete settings roots := by
  obtain ⟨commits, trees, contents, hcommits, htrees, hcontents, hcourse⟩ :=
    LiveSet.exists_course h schedules settings roots state
  cases hresult : (liveTags history schedules settings roots state).result with
  | error failure =>
      rw [hresult] at hcourse
      have hfault := hcourse.fault hcommits htrees hcontents
      exact Or.inr ⟨failure, rfl, fun hcomplete => hcomplete.not_fault hfault⟩
  | ok tags =>
      rw [hresult] at hcourse
      exact Or.inl ⟨tags, rfl, hcourse.complete hcommits htrees hcontents,
        hcourse.mem_iff hcommits htrees hcontents⟩

/-- If the answers leave nothing open then a resolution of live tags succeeds. -/
lemma exists_liveTags (h : history.Gives answers) (hcomplete : answers.Complete settings roots)
    (schedules : Schedules) (state : σ) :
    ∃ tags, (liveTags history schedules settings roots state).result = .ok tags := by
  obtain ⟨tags, htags, -⟩ | ⟨failure, -, hopen⟩ :=
    liveTags_cases h schedules settings roots state
  · exact ⟨tags, htags⟩
  · exact absurd hcomplete hopen

/-- A resolution of live tags gives some tags just if the answers leave nothing open and make
these tags live. -/
lemma liveTags_eq_ok_iff (h : history.Gives answers) (schedules : Schedules) (state : σ) :
    (liveTags history schedules settings roots state).result = .ok tags ↔
      answers.Complete settings roots ∧ ∀ tag, tag ∈ tags ↔ answers.Live settings roots tag := by
  obtain ⟨found, hfound, hcomplete, hmem⟩ | ⟨failure, hfailure, hopen⟩ :=
    liveTags_cases h schedules settings roots state
  · rw [hfound, Except.ok.injEq]
    constructor
    · rintro rfl
      exact ⟨hcomplete, hmem⟩
    · rintro ⟨-, htags⟩
      exact SortedSet.ext fun tag => (hmem tag).trans (htags tag).symm
  · rw [hfailure]
    exact ⟨by rintro ⟨⟩, fun hcomplete => absurd hcomplete.1 hopen⟩

/-- Root filters with the same members have the same live tags. -/
lemma liveTags_congr (h : history.Gives answers) (hroots : ∀ root, root ∈ roots ↔ root ∈ others)
    (schedules schedules' : Schedules) (state state' : σ) :
    (liveTags history schedules settings roots state).result = .ok tags ↔
      (liveTags history schedules' settings others state').result = .ok tags := by
  rw [liveTags_eq_ok_iff h, liveTags_eq_ok_iff h, History.Answers.complete_iff roots,
    History.Answers.complete_iff others]
  simp only [History.Answers.live_iff roots, History.Answers.live_iff others, hroots]

/-- The live tags of two lists of root filters together are those of either list. -/
lemma liveTags_append (h : history.Gives answers) (whole left right : Schedules)
    (state stateLeft stateRight : σ) :
    (liveTags history whole settings (first ++ second) state).result = .ok tags ↔
      ∃ lefts rights,
        (liveTags history left settings first stateLeft).result = .ok lefts ∧
          (liveTags history right settings second stateRight).result = .ok rights ∧
          tags = lefts.union rights := by
  -- what holds of a list of root filters holds of its members, and those are of either list
  have hcomplete : answers.Complete settings (first ++ second) ↔
      answers.Complete settings first ∧ answers.Complete settings second := by
    rw [History.Answers.complete_iff, List.forall_mem_append, ← History.Answers.complete_iff,
      ← History.Answers.complete_iff]
  have hlive (tag : ImageTag) : answers.Live settings (first ++ second) tag ↔
      answers.Live settings first tag ∨ answers.Live settings second tag := by
    rw [History.Answers.live_iff, History.Answers.live_iff first,
      History.Answers.live_iff second]
    simp only [List.mem_append, or_and_right, exists_or]
  rw [liveTags_eq_ok_iff h]
  constructor
  · rintro ⟨hwhole, htags⟩
    obtain ⟨hfirst, hsecond⟩ := hcomplete.mp hwhole
    obtain ⟨lefts, hlefts⟩ := exists_liveTags h hfirst left stateLeft
    obtain ⟨rights, hrights⟩ := exists_liveTags h hsecond right stateRight
    refine ⟨lefts, rights, hlefts, hrights, SortedSet.ext fun tag => ?_⟩
    rw [htags, hlive, SortedSet.mem_union, ((liveTags_eq_ok_iff h _ _).mp hlefts).2,
      ((liveTags_eq_ok_iff h _ _).mp hrights).2]
  · rintro ⟨lefts, rights, hlefts, hrights, rfl⟩
    obtain ⟨hfirst, hmemFirst⟩ := (liveTags_eq_ok_iff h _ _).mp hlefts
    obtain ⟨hsecond, hmemSecond⟩ := (liveTags_eq_ok_iff h _ _).mp hrights
    refine ⟨hcomplete.mpr ⟨hfirst, hsecond⟩, fun tag => ?_⟩
    rw [SortedSet.mem_union, hmemFirst, hmemSecond, hlive]

end LiveTags

/-! ### Garbage -/

namespace Retention

variable {live more : SortedSet ImageTag} {minAge larger : Int} {now : Instant}

/-- A tag in either of two sets protects. -/
lemma isGarbage_union (manifest : Manifest) :
    (Retention.mk (live.union more) minAge now).isGarbage manifest =
      ((Retention.mk live minAge now).isGarbage manifest &&
        (Retention.mk more minAge now).isGarbage manifest) := by
  rw [Bool.eq_iff_iff, Bool.and_eq_true, isGarbage_iff, isGarbage_iff, isGarbage_iff]
  simp only [Protects, age, SortedSet.mem_union]
  grind

/-- The garbage for the union of two sets of tags is what is garbage for both, in the order of
the listing. -/
lemma garbage_union (listing : List Manifest) :
    (Retention.mk (live.union more) minAge now).garbage listing =
      listing.filter fun manifest =>
        manifest ∈ (Retention.mk live minAge now).garbage listing ∧
          manifest ∈ (Retention.mk more minAge now).garbage listing := by
  refine List.filter_congr fun manifest hmanifest => ?_
  rw [isGarbage_union]
  simp [garbage, hmanifest]

/-- A larger minimum age leaves less garbage, in the same order. -/
lemma garbage_sublist (hle : minAge ≤ larger) (listing : List Manifest) :
    ((Retention.mk live larger now).garbage listing).Sublist
      ((Retention.mk live minAge now).garbage listing) := by
  refine List.monotone_filter_right listing fun manifest hgarbage => ?_
  rw [isGarbage_iff] at hgarbage ⊢
  refine mt (Or.imp_right fun hyoung => ?_) hgarbage
  exact hyoung.trans hle

end Retention

/-- More root filters and a larger minimum age only protect more.  The live tags of two lists of
root filters together are known just if those of both lists are, and are then their union; so
the order of the root filters and their repetitions do not matter.  The garbage for both lists
together is what is garbage for either list by itself, entry by entry, and a larger minimum age
only takes entries away. -/
theorem more_roots_protect {σ : Type} {history : History σ} {answers : History.Answers}
    (h : history.Gives answers) (settings : Settings) :
    (∀ (first second : List RootFilter) (whole left right : Schedules)
        (state stateLeft stateRight : σ) (tags : SortedSet ImageTag),
      (liveTags history whole settings (first ++ second) state).result = .ok tags ↔
        ∃ lefts rights,
          (liveTags history left settings first stateLeft).result = .ok lefts ∧
            (liveTags history right settings second stateRight).result = .ok rights ∧
            tags = lefts.union rights) ∧
    (∀ roots others : List RootFilter, (∀ root, root ∈ roots ↔ root ∈ others) →
      ∀ (schedules schedules' : Schedules) (state state' : σ) (tags : SortedSet ImageTag),
        (liveTags history schedules settings roots state).result = .ok tags ↔
          (liveTags history schedules' settings others state').result = .ok tags) ∧
    (∀ (first second : List RootFilter) (whole left right : Schedules)
        (state stateLeft stateRight : σ) (tags lefts rights : SortedSet ImageTag),
      (liveTags history whole settings (first ++ second) state).result = .ok tags →
      (liveTags history left settings first stateLeft).result = .ok lefts →
      (liveTags history right settings second stateRight).result = .ok rights →
      ∀ (minAge : Int) (now : Instant) (listing : List Manifest),
        (Retention.mk tags minAge now).garbage listing =
          listing.filter fun manifest =>
            manifest ∈ (Retention.mk lefts minAge now).garbage listing ∧
              manifest ∈ (Retention.mk rights minAge now).garbage listing) ∧
    ∀ (live : SortedSet ImageTag) (minAge larger : Int) (now : Instant)
      (listing : List Manifest), minAge ≤ larger →
        ((Retention.mk live larger now).garbage listing).Sublist
          ((Retention.mk live minAge now).garbage listing) := by
  refine ⟨fun first second whole left right state stateLeft stateRight tags =>
      liveTags_append h whole left right state stateLeft stateRight,
    fun roots others hroots schedules schedules' state state' tags =>
      liveTags_congr h hroots schedules schedules' state state', ?_,
    fun live minAge larger now listing hle => Retention.garbage_sublist hle listing⟩
  intro first second whole left right state stateLeft stateRight tags lefts rights hwhole hlefts
    hrights minAge now listing
  obtain ⟨others, more, hothers, hmore, rfl⟩ :=
    (liveTags_append h whole left right state stateLeft stateRight).mp hwhole
  obtain rfl : others = lefts := Except.ok.inj (hothers.symm.trans hlefts)
  obtain rfl : more = rights := Except.ok.inj (hmore.symm.trans hrights)
  exact Retention.garbage_union listing

/-- Two branches with an image each keep both of them, in either order and however often they are
named. -/
theorem more_roots_protect_memory :
    let rooted := (({} : History.Memory).withRoot ["master"] ["c1"]).withRoot ["release"] ["c2"]
    let tracked := rooted.withBlob "c1" "b1"
      "CI_BUILD_CONTAINER=bondciimages.azurecr.io/ubuntu-1604:v1\n"
    let memory := tracked.withBlob "c2" "b2"
      "CI_BUILD_CONTAINER=bondciimages.azurecr.io/ubuntu-1604:v2\n"
    let history : History Unit := memory.answers.history
    let settings := Settings.standard 10
    let master : RootFilter := ⟨["master"]⟩
    let release : RootFilter := ⟨["release"]⟩
    history.Gives memory.answers ∧ ∃ tags,
      (liveTags history .inOrder settings ([master] ++ [release]) ()).result = .ok tags ∧
        tags.toList = [⟨"v1"⟩, ⟨"v2"⟩] ∧
        (∃ lefts rights, (liveTags history .inOrder settings [master] ()).result = .ok lefts ∧
          (liveTags history .inOrder settings [release] ()).result = .ok rights ∧
          tags = lefts.union rights) ∧
        (liveTags history .inOrder settings [release, master, release] ()).result = .ok tags := by
  intro rooted tracked memory history settings master release
  have hgives : history.Gives memory.answers := memory.answers.gives
  obtain ⟨happend, hcongr, -⟩ := more_roots_protect hgives settings
  have hfound : ((liveTags history .inOrder settings ([master] ++ [release]) ()).result.map
      SortedSet.toList).toOption = some [⟨"v1"⟩, ⟨"v2"⟩] := by
    decide +kernel
  cases hresult : (liveTags history .inOrder settings ([master] ++ [release]) ()).result with
  | error failure =>
      rw [hresult] at hfound
      cases hfound
  | ok tags =>
      rw [hresult] at hfound
      refine ⟨hgives, tags, rfl, Option.some.inj hfound,
        (happend _ _ _ .inOrder .inOrder _ () () tags).mp hresult, ?_⟩
      exact (hcongr _ _ (by simp) _ .inOrder _ () tags).mp hresult

end ImageRetention
