import Mathlib.Tactic
import ImageRetention.Manifest.Listing
import ImageRetention.Proofs.Decoding
import ImageRetention.Proofs.Json.Reading

/-!
Which objects are decoded as manifests, and to which.

* `valuesOf`: the values that members give for a name;
* `Draft.Met`: what a draft holds before and after some members, told by names and not by places;
* `Describes`: members that describe a manifest;
* `entry_record_eq_ok_iff`: an object is decoded to the manifest that its members describe.

A member is met only once, so a draft after some members is told by the values that each name has
among them.  Every name has at most one, which is why their order and the members between them do
not matter.
-/

namespace ImageRetention.Manifest

open Decoding (Problem string stringList string_eq_ok_iff stringList_eq_ok_iff)

lemma date_eq_ok_iff {value : Json} {found : Option Instant} :
    date value = .ok found ↔ (value = .null ∧ found = none) ∨
      ∃ text t, value = .string (some text) ∧ Instant.ofText? text = some t ∧ found = some t := by
  rcases value with _ | _ | _ | _ | _ | _ | _
  case string text =>
    cases text with
    | none => simp [date]
    | some text =>
      cases h : Instant.ofText? text <;> simp [date, h, eq_comm]
  all_goals simp [date, eq_comm]

/-! ### Members by their names -/

/-- The values that members give for a name, in their order. -/
def valuesOf (name : String) (members : List (String × Json)) : List Json :=
  (members.filter fun member => member.1 == name).map Prod.snd

lemma valuesOf_cons (name : String) (member : String × Json) (members : List (String × Json)) :
    valuesOf name (member :: members) = valuesOf name [member] ++ valuesOf name members := by
  rw [← List.singleton_append, valuesOf, List.filter_append, List.map_append]
  rfl

lemma valuesOf_singleton (name other : String) (value : Json) :
    valuesOf name [(other, value)] = if other = name then [value] else [] := by
  by_cases h : other = name <;> simp [valuesOf, h]

lemma mem_valuesOf {name : String} {members : List (String × Json)} {value : Json} :
    value ∈ valuesOf name members ↔ (name, value) ∈ members := by
  simp [valuesOf]

/-! ### Drafts -/

/-- What is known of a member before and after some values of it are met: a first value is
decoded, and there is no second one. -/
inductive Gathered {α : Type} (decode : Json → Except Problem α) :
    Option α → List Json → Option α → Prop
  | none_given (before : Option α) : Gathered decode before [] before
  | given {value : Json} {found : α} (h : decode value = .ok found) :
      Gathered decode none [value] (some found)

variable {α : Type} {decode : Json → Except Problem α} {before after : Option α}

lemma gathered_nil_iff : Gathered decode before [] after ↔ after = before :=
  ⟨fun h => by cases h; rfl, fun h => by rw [h]; exact .none_given before⟩

lemma gathered_singleton_iff {value : Json} : Gathered decode before [value] after ↔
    before = none ∧ ∃ found, decode value = .ok found ∧ after = some found := by
  constructor
  · rintro (_ | h)
    exact ⟨rfl, _, h, rfl⟩
  · rintro ⟨rfl, found, h, rfl⟩
    exact .given h

lemma once_eq_ok_iff {name : String} {decoded : Except Problem α} :
    once name before decoded = .ok after ↔
      before = none ∧ ∃ found, decoded = .ok found ∧ after = some found := by
  cases before <;> cases decoded <;> simp [once, Except.map, eq_comm]

lemma gathered_append_iff {values more : List Json} :
    Gathered decode before (values ++ more) after ↔
      ∃ between, Gathered decode before values between ∧ Gathered decode between more after := by
  constructor
  · intro h
    cases values with
    | nil => exact ⟨before, .none_given before, h⟩
    | cons value values =>
      rw [List.cons_append] at h
      generalize hall : value :: (values ++ more) = all at h
      cases h with
      | none_given => simp at hall
      | given h =>
        simp only [List.cons.injEq, List.append_eq_nil_iff] at hall
        obtain ⟨rfl, rfl, rfl⟩ := hall
        exact ⟨_, .given h, .none_given _⟩
  · rintro ⟨between, hbefore, hafter⟩
    cases hbefore with
    | none_given => exact hafter
    | given h =>
      cases hafter with
      | none_given => exact .given h

/-- A draft before and after some members are met. -/
structure Draft.Met (before : Draft) (members : List (String × Json)) (after : Draft) : Prop where
  digest : Gathered string before.digest (valuesOf "digest" members) after.digest
  tags : Gathered stringList before.tags (valuesOf "tags" members) after.tags
  timestamp : Gathered date before.timestamp (valuesOf "timestamp" members) after.timestamp
  lastUpdateTime :
    Gathered date before.lastUpdateTime (valuesOf "lastUpdateTime" members) after.lastUpdateTime
  createdTime :
    Gathered date before.createdTime (valuesOf "createdTime" members) after.createdTime

namespace Draft

variable {draft later : Draft} {members : List (String × Json)}

lemma met_iff : draft.Met members later ↔
    Gathered string draft.digest (valuesOf "digest" members) later.digest ∧
    Gathered stringList draft.tags (valuesOf "tags" members) later.tags ∧
    Gathered date draft.timestamp (valuesOf "timestamp" members) later.timestamp ∧
    Gathered date draft.lastUpdateTime (valuesOf "lastUpdateTime" members) later.lastUpdateTime ∧
    Gathered date draft.createdTime (valuesOf "createdTime" members) later.createdTime :=
  ⟨fun h => ⟨h.1, h.2, h.3, h.4, h.5⟩, fun h => ⟨h.1, h.2.1, h.2.2.1, h.2.2.2.1, h.2.2.2.2⟩⟩

lemma met_nil_iff : draft.Met [] later ↔ later = draft := by
  simp only [met_iff, valuesOf, List.filter_nil, List.map_nil, gathered_nil_iff]
  cases draft
  cases later
  simp

lemma met_cons_iff {member : String × Json} : draft.Met (member :: members) later ↔
    ∃ next : Draft, draft.Met [member] next ∧ next.Met members later := by
  constructor
  · intro h
    simp only [met_iff, valuesOf_cons _ _ members, gathered_append_iff] at h
    obtain ⟨⟨digest, h1, h1'⟩, ⟨tags, h2, h2'⟩, ⟨timestamp, h3, h3'⟩,
      ⟨lastUpdateTime, h4, h4'⟩, ⟨createdTime, h5, h5'⟩⟩ := h
    exact ⟨⟨digest, tags, timestamp, lastUpdateTime, createdTime⟩, ⟨h1, h2, h3, h4, h5⟩,
      ⟨h1', h2', h3', h4', h5'⟩⟩
  · rintro ⟨next, hnext, hlater⟩
    constructor <;> rw [valuesOf_cons _ _ members, gathered_append_iff]
    · exact ⟨_, hnext.digest, hlater.digest⟩
    · exact ⟨_, hnext.tags, hlater.tags⟩
    · exact ⟨_, hnext.timestamp, hlater.timestamp⟩
    · exact ⟨_, hnext.lastUpdateTime, hlater.lastUpdateTime⟩
    · exact ⟨_, hnext.createdTime, hlater.createdTime⟩

lemma taken_eq_ok_iff {taken : Except Problem α} {set : α → Draft} :
    (do return set (← taken)) = Except.ok later ↔
      ∃ found, taken = .ok found ∧ set found = later := by
  cases taken <;> simp [bind, Except.bind, pure, Except.pure]

/-- One member is met as its name tells; a member of another name leaves the draft as it is. -/
lemma withMember_eq_ok_iff {name : String} {value : Json} (hvalue : value.isSound = true) :
    draft.withMember name value = .ok later ↔ draft.Met [(name, value)] later := by
  unfold withMember
  split
  case h_6 hdigest htags htimestamp hlastUpdateTime hcreatedTime =>
    simp only [met_iff, valuesOf_singleton, if_neg hdigest, if_neg htags, if_neg htimestamp,
      if_neg hlastUpdateTime, if_neg hcreatedTime, if_pos hvalue, gathered_nil_iff]
    cases draft
    cases later
    simp [eq_comm]
  -- a known name: its value is taken once, and the other fields stay as they are
  all_goals
    cases later
    simp only [met_iff, valuesOf_singleton, String.reduceEq, if_true, if_false, gathered_nil_iff,
      gathered_singleton_iff, taken_eq_ok_iff, once_eq_ok_iff, mk.injEq]
    grind

lemma withMembers_eq_ok_iff (hmembers : (Json.record members).isSound = true) :
    draft.withMembers (members.map fun member => (some member.1, member.2)) = .ok later ↔
      draft.Met members later := by
  induction members generalizing draft with
  | nil => simp [withMembers, met_nil_iff, eq_comm]
  | cons member members ih =>
      obtain ⟨name, value⟩ := member
      rw [Json.isSound_record_cons, Bool.and_eq_true] at hmembers
      have hstep : draft.withMembers
          (((name, value) :: members).map fun member => (some member.1, member.2)) = .ok later ↔
          ∃ next, draft.withMember name value = .ok next ∧
            next.withMembers (members.map fun member => (some member.1, member.2)) = .ok later := by
        rw [List.map_cons, withMembers]
        cases draft.withMember name value <;> simp [bind, Except.bind]
      rw [hstep, met_cons_iff]
      simp only [withMember_eq_ok_iff hmembers.1, ih hmembers.2]

lemma finish_eq_ok_iff {manifest : Manifest} : draft.finish = .ok manifest ↔
    draft.digest = some manifest.digest ∧ draft.tags.getD [] = manifest.tags ∧
      (draft.timestamp.join <|> draft.lastUpdateTime.join <|> draft.createdTime.join) =
        some manifest.timestamp := by
  obtain ⟨digest, tags, timestamp, lastUpdateTime, createdTime⟩ := draft
  obtain ⟨name, given, date⟩ := manifest
  cases digest with
  | none => simp [finish]
  | some digest =>
    have hfirst : [timestamp, lastUpdateTime, createdTime].findSome? (fun given => given.join) =
        (timestamp.join <|> lastUpdateTime.join <|> createdTime.join) := by
      simp only [List.findSome?]
      cases timestamp.join <;> cases lastUpdateTime.join <;> cases createdTime.join <;> rfl
    simp only [finish, hfirst]
    cases timestamp.join <|> lastUpdateTime.join <|> createdTime.join <;> simp

end Draft

/-! ### What members describe -/

/-- No tags are given, or an array of texts, once. -/
inductive TagsGiven : List Json → List String → Prop
  | absent : TagsGiven [] []
  | given (tags : List String) :
      TagsGiven [.array (tags.map fun tag => .string (some tag)) true] tags

/-- No date is given, or null, or the text of an instant, once. -/
inductive DateGiven : List Json → Option Instant → Prop
  | absent : DateGiven [] none
  | null : DateGiven [.null] none
  | text {text : String} {t : Instant} (h : Instant.ofText? text = some t) :
      DateGiven [.string (some text)] (some t)

/-- Members describe a manifest: they give each of its parts once, whatever their order, and are
dated by the first date that is given. -/
structure Describes (members : List (String × Json)) (manifest : Manifest) : Prop where
  digest : valuesOf "digest" members = [.string (some manifest.digest)]
  tags : TagsGiven (valuesOf "tags" members) manifest.tags
  dates : ∃ timestamp lastUpdateTime createdTime,
    DateGiven (valuesOf "timestamp" members) timestamp ∧
    DateGiven (valuesOf "lastUpdateTime" members) lastUpdateTime ∧
    DateGiven (valuesOf "createdTime" members) createdTime ∧
    (timestamp <|> lastUpdateTime <|> createdTime) = some manifest.timestamp

lemma gathered_digest_iff {values : List Json} {text : String} :
    Gathered string none values (some text) ↔ values = [.string (some text)] := by
  constructor
  · rintro (_ | h)
    rw [string_eq_ok_iff.mp h]
  · rintro rfl
    exact .given (string_eq_ok_iff.mpr rfl)

lemma tagsGiven_iff {values : List Json} {tags : List String} :
    TagsGiven values tags ↔
      ∃ found, Gathered stringList none values found ∧ found.getD [] = tags := by
  constructor
  · rintro (_ | _)
    · exact ⟨none, .none_given none, rfl⟩
    · exact ⟨some tags, .given (stringList_eq_ok_iff.mpr rfl), rfl⟩
  · rintro ⟨found, _ | h, rfl⟩
    · exact .absent
    · rw [stringList_eq_ok_iff.mp h]
      exact .given _

lemma dateGiven_iff {values : List Json} {given : Option Instant} :
    DateGiven values given ↔ ∃ found, Gathered date none values found ∧ found.join = given := by
  constructor
  · rintro (_ | _ | h)
    · exact ⟨none, .none_given none, rfl⟩
    · exact ⟨some none, .given rfl, rfl⟩
    · exact ⟨some _, .given (date_eq_ok_iff.mpr (.inr ⟨_, _, rfl, h, rfl⟩)), rfl⟩
  · rintro ⟨found, _ | h, rfl⟩
    · exact .absent
    · rcases date_eq_ok_iff.mp h with ⟨rfl, rfl⟩ | ⟨text, t, rfl, htext, rfl⟩
      · exact .null
      · exact .text htext

/-- An object is decoded to the manifest that its members describe, and to no other. -/
theorem entry_record_eq_ok_iff {members : List (String × Json)} {manifest : Manifest}
    (hmembers : (Json.record members).isSound = true) :
    entry (Json.record members) = .ok manifest ↔ Describes members manifest := by
  have hentry : entry (Json.record members) = .ok manifest ↔
      ∃ draft : Draft, Draft.Met {} members draft ∧ draft.finish = .ok manifest := by
    simp only [← Draft.withMembers_eq_ok_iff hmembers]
    rw [Json.record, entry]
    cases Draft.withMembers {} (members.map fun member => (some member.1, member.2)) <;>
      simp [bind, Except.bind]
  rw [hentry]
  simp only [Draft.finish_eq_ok_iff]
  constructor
  · rintro ⟨draft, hmet, hdigest, htags, hdate⟩
    refine ⟨gathered_digest_iff.mp (hdigest ▸ hmet.digest),
      tagsGiven_iff.mpr ⟨_, hmet.tags, htags⟩, _, _, _, dateGiven_iff.mpr ⟨_, hmet.timestamp, rfl⟩,
      dateGiven_iff.mpr ⟨_, hmet.lastUpdateTime, rfl⟩,
      dateGiven_iff.mpr ⟨_, hmet.createdTime, rfl⟩, hdate⟩
  · rintro ⟨hdigest, htags, _, _, _, htimestamp, hlastUpdateTime, hcreatedTime, hdate⟩
    obtain ⟨tags, gathersTags, htagsOf⟩ := tagsGiven_iff.mp htags
    obtain ⟨timestamp, gathersTimestamp, rfl⟩ := dateGiven_iff.mp htimestamp
    obtain ⟨lastUpdateTime, gathersLastUpdateTime, rfl⟩ := dateGiven_iff.mp hlastUpdateTime
    obtain ⟨createdTime, gathersCreatedTime, rfl⟩ := dateGiven_iff.mp hcreatedTime
    exact ⟨⟨some manifest.digest, tags, timestamp, lastUpdateTime, createdTime⟩,
      ⟨gathered_digest_iff.mpr hdigest, gathersTags, gathersTimestamp, gathersLastUpdateTime,
        gathersCreatedTime⟩, rfl, htagsOf, hdate⟩

end ImageRetention.Manifest
