import ImageRetention.Manifest.Printer
import ImageRetention.Proofs.Instant.RoundTrip
import ImageRetention.Proofs.Manifest.Listing
import ImageRetention.Retention

/-!
Listings that are written are read back.

* `members`: what is written of a manifest;
* `writes_toChars`, `spells_listingBytes`: a written listing spells the array of these objects;
* `describes_members`: they describe the manifest;
* `listing_round_trip`: so the listing is read back, and the same of it is garbage.
-/

namespace ImageRetention.Manifest

/-- What is written of a manifest. -/
def members (manifest : Manifest) : List (String × Json) :=
  [("digest", .string (some manifest.digest)),
   ("tags", .array (manifest.tags.map fun tag => .string (some tag)) true),
   ("timestamp", .string (some manifest.timestamp.text))]

lemma writes_quotes (texts : List String) :
    List.Forall₂ Json.Writes (texts.map Json.quote)
      (texts.map fun text => .string (some text)) := by
  induction texts with
  | nil => exact .nil
  | cons text texts ih => exact .cons (Json.writes_quote text) ih

lemma writes_toChars (manifest : Manifest) :
    Json.Writes manifest.toChars (Json.record manifest.members) := by
  refine Json.writes_objectText (.cons ⟨rfl, Json.writes_quote manifest.digest⟩ ?_)
  refine .cons ⟨rfl, Json.writes_arrayText (writes_quotes manifest.tags)⟩ ?_
  exact .cons ⟨rfl, Json.writes_quote manifest.timestamp.text⟩ .nil

/-- A written listing spells the array of what is written of its manifests. -/
lemma spells_listingBytes (manifests : List Manifest) :
    Json.Spells (listingBytes manifests)
      (.array ((manifests.map members).map Json.record) true) := by
  have hitems : List.Forall₂ Json.Writes (manifests.map toChars)
      ((manifests.map members).map Json.record) := by
    induction manifests with
    | nil => exact .nil
    | cons manifest manifests ih => exact .cons (writes_toChars manifest) ih
  rw [listingBytes, Text.Utf8.bytesOf, listingText, String.toList_ofList]
  exact (Json.writes_arrayText hitems).spells

/-- What is written of a manifest describes it. -/
lemma describes_members (manifest : Manifest) : Describes manifest.members manifest where
  digest := rfl
  tags := .given manifest.tags
  dates := ⟨some manifest.timestamp, none, none, .text (Instant.ofText?_text manifest.timestamp),
    .absent, .absent, rfl⟩

/-- A listing that is written is read back as it was, whatever its texts and instants are, and so
the same of it is garbage. -/
theorem listing_round_trip (source : String) (manifests : List Manifest) :
    Json.Spells (listingBytes manifests)
      (.array ((manifests.map members).map Json.record) true) ∧
    decode source (listingBytes manifests) = .ok manifests ∧
    ∀ retention : Retention,
      (decode source (listingBytes manifests)).map retention.garbage =
        .ok (retention.garbage manifests) := by
  have hspells := spells_listingBytes manifests
  have hdescribed : List.Forall₂ Describes (manifests.map members) manifests := by
    rw [List.forall₂_map_left_iff, List.forall₂_same]
    exact fun manifest _ => describes_members manifest
  have hdecoded : decode source (listingBytes manifests) = .ok manifests :=
    (decode_eq_ok_iff hspells).mpr hdescribed
  refine ⟨hspells, hdecoded, fun retention => ?_⟩
  rw [hdecoded]
  rfl

end ImageRetention.Manifest
