import ImageRetention.Proofs.Manifest.Entry

/-!
Which members describe a manifest.

* `IsEntry`, `exists_describes_iff`: members of which a manifest can be made, told member by
  member;
* `SameKnown`, `SameKnown.describes_iff`: the order of the members and those that are skipped do
  not matter.
-/

namespace ImageRetention.Manifest

/-! ### Members of which a manifest is made -/

/-- The names of the members that date an entry, the first to count first. -/
def dateNames : List String := ["timestamp", "lastUpdateTime", "createdTime"]

/-- The names of the members that are not skipped. -/
def knownNames : List String := "digest" :: "tags" :: dateNames

/-- Members of which a manifest is made: a digest, tags or none, dates that are null or the texts
of instants and not all of them null, and nothing known twice. -/
structure IsEntry (members : List (String × Json)) : Prop where
  digest : ∃ text, ("digest", .string (some text)) ∈ members
  tags : ∀ value, ("tags", value) ∈ members →
    ∃ tags : List String, value = .array (tags.map fun tag => .string (some tag)) true
  dates : ∀ name ∈ dateNames, ∀ value, (name, value) ∈ members →
    value = .null ∨ ∃ text t, value = .string (some text) ∧ Instant.ofText? text = some t
  dated : ∃ name ∈ dateNames, ∃ value, (name, value) ∈ members ∧ value ≠ .null
  once : ∀ name ∈ knownNames, (valuesOf name members).length ≤ 1

lemma eq_nil_or_singleton {values : List Json} (h : values.length ≤ 1) :
    values = [] ∨ ∃ value, values = [value] := by
  rcases Nat.le_one_iff_eq_zero_or_eq_one.mp h with h | h
  · exact .inl (List.length_eq_zero_iff.mp h)
  · exact .inr (List.length_eq_one_iff.mp h)

lemma TagsGiven.length_le {values : List Json} {tags : List String} (h : TagsGiven values tags) :
    values.length ≤ 1 := by
  cases h <;> simp

lemma TagsGiven.of_mem {values : List Json} {tags : List String} (h : TagsGiven values tags)
    {value : Json} (hvalue : value ∈ values) :
    ∃ tags : List String, value = .array (tags.map fun tag => .string (some tag)) true := by
  cases h with
  | absent => simp at hvalue
  | given tags => exact ⟨tags, List.mem_singleton.mp hvalue⟩

lemma exists_tagsGiven {values : List Json} (hlength : values.length ≤ 1)
    (h : ∀ value ∈ values,
      ∃ tags : List String, value = .array (tags.map fun tag => .string (some tag)) true) :
    ∃ tags, TagsGiven values tags := by
  rcases eq_nil_or_singleton hlength with rfl | ⟨value, rfl⟩
  · exact ⟨[], .absent⟩
  · obtain ⟨tags, rfl⟩ := h value (List.mem_singleton_self value)
    exact ⟨tags, .given tags⟩

lemma DateGiven.length_le {values : List Json} {given : Option Instant}
    (h : DateGiven values given) : values.length ≤ 1 := by
  cases h <;> simp

lemma DateGiven.of_mem {values : List Json} {given : Option Instant} (h : DateGiven values given)
    {value : Json} (hvalue : value ∈ values) :
    value = .null ∨ ∃ text t, value = .string (some text) ∧ Instant.ofText? text = some t := by
  cases h with
  | absent => simp at hvalue
  | null => exact .inl (List.mem_singleton.mp hvalue)
  | text h => exact .inr ⟨_, _, List.mem_singleton.mp hvalue, h⟩

lemma DateGiven.exists_mem {values : List Json} {t : Instant} (h : DateGiven values (some t)) :
    ∃ value ∈ values, value ≠ .null := by
  cases h with
  | text h => exact ⟨_, List.mem_singleton_self _, by simp⟩

/-- Values of which there is at most one, each null or the text of an instant, give a date, which
is none only if they are null. -/
lemma exists_dateGiven {values : List Json} (hlength : values.length ≤ 1)
    (h : ∀ value ∈ values,
      value = .null ∨ ∃ text t, value = .string (some text) ∧ Instant.ofText? text = some t) :
    ∃ given, DateGiven values given ∧ (given = none → ∀ value ∈ values, value = .null) := by
  rcases eq_nil_or_singleton hlength with rfl | ⟨value, rfl⟩
  · exact ⟨none, .absent, by simp⟩
  · rcases h value (List.mem_singleton_self value) with rfl | ⟨text, t, rfl, ht⟩
    · exact ⟨none, .null, by simp⟩
    · exact ⟨some t, .text ht, by simp⟩

lemma Describes.isEntry {members : List (String × Json)} {manifest : Manifest}
    (h : Describes members manifest) : IsEntry members := by
  obtain ⟨hdigest, htags, timestamp, lastUpdateTime, createdTime, htimestamp, hlastUpdateTime,
    hcreatedTime, hdate⟩ := h
  constructor
  case digest =>
    refine ⟨manifest.digest, ?_⟩
    rw [← mem_valuesOf, hdigest]
    exact List.mem_singleton_self _
  case tags =>
    intro value hvalue
    exact htags.of_mem (mem_valuesOf.mpr hvalue)
  case dates =>
    simp only [dateNames, List.forall_mem_cons, ← mem_valuesOf]
    exact ⟨fun _ => htimestamp.of_mem, fun _ => hlastUpdateTime.of_mem,
      fun _ => hcreatedTime.of_mem, by simp⟩
  case dated =>
    -- the date of the manifest is that of the first member that gives one
    simp only [← mem_valuesOf]
    cases timestamp with
    | some t => exact ⟨"timestamp", by simp [dateNames], htimestamp.exists_mem⟩
    | none =>
      cases lastUpdateTime with
      | some t => exact ⟨"lastUpdateTime", by simp [dateNames], hlastUpdateTime.exists_mem⟩
      | none =>
        obtain rfl : createdTime = some manifest.timestamp := hdate
        exact ⟨"createdTime", by simp [dateNames], hcreatedTime.exists_mem⟩
  case once =>
    simp only [knownNames, dateNames, List.forall_mem_cons, hdigest]
    exact ⟨by simp, htags.length_le, htimestamp.length_le, hlastUpdateTime.length_le,
      hcreatedTime.length_le, by simp⟩

lemma IsEntry.exists_describes {members : List (String × Json)} (h : IsEntry members) :
    ∃ manifest, Describes members manifest := by
  obtain ⟨digest, hdigest⟩ := h.digest
  have htags := h.tags
  have hdates := h.dates
  have honce := h.once
  simp only [knownNames, dateNames, List.forall_mem_cons, ← mem_valuesOf]
    at hdigest htags hdates honce
  have hname : valuesOf "digest" members = [.string (some digest)] := by
    obtain ⟨value, hvalue⟩ | hnil := (eq_nil_or_singleton honce.1).symm
    · rw [hvalue, List.mem_singleton] at hdigest
      rw [hvalue, hdigest]
    · simp [hnil] at hdigest
  obtain ⟨tags, htags⟩ := exists_tagsGiven honce.2.1 htags
  obtain ⟨timestamp, htimestamp, hfirst⟩ := exists_dateGiven honce.2.2.1 hdates.1
  obtain ⟨lastUpdateTime, hlastUpdateTime, hsecond⟩ :=
    exists_dateGiven honce.2.2.2.1 hdates.2.1
  obtain ⟨createdTime, hcreatedTime, hthird⟩ := exists_dateGiven honce.2.2.2.2.1 hdates.2.2.1
  cases hdate : (timestamp <|> lastUpdateTime <|> createdTime) with
  | none =>
    obtain ⟨hnone, hnone', hnone''⟩ :
        timestamp = none ∧ lastUpdateTime = none ∧ createdTime = none := by
      simpa using hdate
    obtain ⟨name, hname, value, hvalue, hne⟩ := h.dated
    simp only [dateNames, List.mem_cons, List.not_mem_nil, or_false, ← mem_valuesOf] at hname hvalue
    rcases hname with rfl | rfl | rfl
    · exact absurd (hfirst hnone value hvalue) hne
    · exact absurd (hsecond hnone' value hvalue) hne
    · exact absurd (hthird hnone'' value hvalue) hne
  | some t =>
    exact ⟨⟨digest, tags, t⟩, hname, htags, _, _, _, htimestamp,
      hlastUpdateTime, hcreatedTime, hdate⟩

/-- Members describe a manifest exactly if one can be made of them. -/
theorem exists_describes_iff {members : List (String × Json)} :
    (∃ manifest, Describes members manifest) ↔ IsEntry members :=
  ⟨fun ⟨_, h⟩ => h.isEntry, IsEntry.exists_describes⟩

/-! ### Members that are known -/

/-- Whether a member is not skipped. -/
def isKnown (member : String × Json) : Bool := knownNames.contains member.1

/-- The same members are known, in whatever order, and whatever others there are. -/
def SameKnown (members others : List (String × Json)) : Prop :=
  (members.filter isKnown).Perm (others.filter isKnown)

lemma valuesOf_filter_isKnown {name : String} (hname : name ∈ knownNames)
    (members : List (String × Json)) :
    valuesOf name (members.filter isKnown) = valuesOf name members := by
  rw [valuesOf, List.filter_filter]
  congr 1
  refine List.filter_congr fun member _ => ?_
  cases h : member.1 == name with
  | false => rfl
  | true => rw [isKnown, beq_iff_eq.mp h, List.contains_iff_mem.mpr hname, Bool.and_true]

lemma SameKnown.perm_valuesOf {members others : List (String × Json)} (h : SameKnown members others)
    {name : String} (hname : name ∈ knownNames) :
    (valuesOf name members).Perm (valuesOf name others) := by
  rw [← valuesOf_filter_isKnown hname members, ← valuesOf_filter_isKnown hname others]
  exact (h.filter _).map _

lemma SameKnown.describes {members others : List (String × Json)} (h : SameKnown members others)
    {manifest : Manifest} (hmembers : Describes members manifest) : Describes others manifest := by
  -- each name has at most one value, and a list of at most one item has no other order
  have hvalues : ∀ name ∈ knownNames, valuesOf name others = valuesOf name members := by
    intro name hname
    have hperm := h.perm_valuesOf hname
    rcases eq_nil_or_singleton (hmembers.isEntry.once name hname) with hnil | ⟨value, hvalue⟩
    · rw [hnil] at hperm ⊢
      exact hperm.nil_eq.symm
    · rw [hvalue] at hperm ⊢
      exact List.perm_singleton.mp hperm.symm
  obtain ⟨hdigest, htags, hdates⟩ := hmembers
  simp only [knownNames, dateNames, List.forall_mem_cons] at hvalues
  obtain ⟨h1, h2, h3, h4, h5, -⟩ := hvalues
  constructor
  · rwa [h1]
  · rwa [h2]
  · rwa [h3, h4, h5]

/-- What members describe is told by those that are known. -/
theorem SameKnown.describes_iff {members others : List (String × Json)}
    (h : SameKnown members others) {manifest : Manifest} :
    Describes members manifest ↔ Describes others manifest :=
  ⟨h.describes, SameKnown.describes (List.Perm.symm h)⟩

end ImageRetention.Manifest
