import ImageRetention.Proofs.Json.Printing
import ImageRetention.Proofs.Manifest.Members
import ImageRetention.Registry.Azure

/-!
Which listings are decoded, and to which manifests.

* `decode_eq_ok_iff`: a text that spells an array of objects is decoded to what they describe;
* `decode_error`: a listing that is not decoded is refused as a whole;
* `decode_complete`: decoding is all or nothing, and does not depend on the order of members or
  on members that are skipped.
-/

namespace ImageRetention.Manifest

variable {source : String} {bytes : List UInt8} {records : List (List (String × Json))}
  {manifests : List Manifest}

/-! ### Entries one after another -/

lemma entries_cons_eq_ok_iff {item : Json} {items : List Json} :
    entries (item :: items) = .ok manifests ↔
      ∃ manifest more, entry item = .ok manifest ∧ entries items = .ok more ∧
        manifest :: more = manifests := by
  rw [entries]
  cases entry item <;> cases entries items <;> simp [bind, Except.bind]

lemma entries_records_eq_ok_iff (h : Json.areSound (records.map Json.record) = true) :
    entries (records.map Json.record) = .ok manifests ↔
      List.Forall₂ Describes records manifests := by
  induction records generalizing manifests with
  | nil => cases manifests <;> simp [entries]
  | cons members records ih =>
      rw [List.map_cons, Json.areSound, Bool.and_eq_true] at h
      rw [List.map_cons, entries_cons_eq_ok_iff]
      simp only [entry_record_eq_ok_iff h.1, ih h.2]
      cases manifests with
      | nil => simp
      | cons manifest manifests => simp

/-- A text that spells an array of objects is decoded to the manifests that they describe, one
after another, and to nothing else. -/
theorem decode_eq_ok_iff (h : Json.Spells bytes (.array (records.map Json.record) true)) :
    decode source bytes = .ok manifests ↔ List.Forall₂ Describes records manifests := by
  have hlisting : listing (.array (records.map Json.record) true) = .ok manifests ↔
      List.Forall₂ Describes records manifests := by
    rw [← entries_records_eq_ok_iff (Json.isSound_of_spells h), listing]
    cases entries (records.map Json.record) <;> simp [bind, Except.bind]
  rw [← hlisting, decode, ofBytes, Json.Document.ofBytes_of_spells h, Decoding.document]
  cases listing (.array (records.map Json.record) true) <;>
    simp [bind, Except.bind, Except.mapError]

lemma exists_forall₂_describes_iff :
    (∃ manifests, List.Forall₂ Describes records manifests) ↔
      ∀ members ∈ records, IsEntry members := by
  induction records with
  | nil => exact ⟨fun _ => by simp, fun _ => ⟨[], .nil⟩⟩
  | cons members records ih =>
      rw [List.forall_mem_cons, ← ih, ← exists_describes_iff]
      constructor
      · rintro ⟨_, _ | ⟨hmembers, hrecords⟩⟩
        exact ⟨⟨_, hmembers⟩, _, hrecords⟩
      · rintro ⟨⟨manifest, hmembers⟩, manifests, hrecords⟩
        exact ⟨manifest :: manifests, .cons hmembers hrecords⟩

/-- A listing that is not decoded is refused as a whole, and the failure names its source. -/
lemma decode_error (h : ∀ manifests, decode source bytes ≠ .ok manifests) :
    ∃ reason, decode source bytes = .error (.badListing source reason) := by
  cases hread : ofBytes bytes with
  | ok manifests => exact absurd (by rw [decode, hread]; rfl) (h manifests)
  | error problem => exact ⟨problem.message, by rw [decode, hread]; rfl⟩

lemma describes_of_sameKnown {others : List (List (String × Json))}
    (hsame : List.Forall₂ SameKnown records others) :
    List.Forall₂ Describes records manifests ↔ List.Forall₂ Describes others manifests := by
  induction hsame generalizing manifests with
  | nil => rfl
  | cons h _ ih =>
      cases manifests with
      | nil => simp
      | cons manifest manifests => rw [List.forall₂_cons, List.forall₂_cons, h.describes_iff, ih]

/-- Decoding a text that spells an array of objects succeeds exactly if a manifest can be made of
each of them.  It then gives what they describe, in their order; otherwise it is refused as a
whole.  Neither depends on the order of members, or on members with other names. -/
theorem decode_complete (source : String) {bytes : List UInt8}
    {records : List (List (String × Json))}
    (h : Json.Spells bytes (.array (records.map Json.record) true)) :
    ((∃ manifests, decode source bytes = .ok manifests) ↔ ∀ members ∈ records, IsEntry members) ∧
    (∀ manifests, decode source bytes = .ok manifests ↔
      List.Forall₂ Describes records manifests) ∧
    ((¬∀ members ∈ records, IsEntry members) →
      ∃ reason, decode source bytes = .error (.badListing source reason)) ∧
    ∀ (otherBytes : List UInt8) (others : List (List (String × Json))),
      Json.Spells otherBytes (.array (others.map Json.record) true) →
      List.Forall₂ SameKnown records others →
      ∀ manifests,
        decode source bytes = .ok manifests ↔ decode source otherBytes = .ok manifests := by
  have hsuccess : (∃ manifests, decode source bytes = .ok manifests) ↔
      ∀ members ∈ records, IsEntry members := by
    simp only [decode_eq_ok_iff h]
    exact exists_forall₂_describes_iff
  refine ⟨hsuccess, fun manifests => decode_eq_ok_iff h, fun hrefused => ?_,
    fun otherBytes others hothers hsame manifests => ?_⟩
  · rw [← hsuccess, not_exists] at hrefused
    exact decode_error hrefused
  · rw [decode_eq_ok_iff h, decode_eq_ok_iff hothers, describes_of_sameKnown hsame]

/-! ### A sample -/

/-- The members of an entry whose first date is null, with one that is skipped. -/
def sampleMembers : List (String × Json) :=
  [("digest", .string (some "sha256:4b0c")), ("tags", .array [.string (some "live\n")] true),
    ("timestamp", .null), ("architecture", .string (some "amd64")),
    ("createdTime", .string (some "2018-01-01T00:00:00Z"))]

/-- The text of a listing with that entry. -/
def sampleText : List UInt8 :=
  Text.Utf8.encode <| Json.arrayText [Json.objectText
    [("digest", Json.quote "sha256:4b0c"), ("tags", Json.arrayText [Json.quote "live\n"]),
      ("timestamp", "null".toList), ("architecture", Json.quote "amd64"),
      ("createdTime", Json.quote "2018-01-01T00:00:00Z")]]

/-- The same members in another order, the one that is skipped given twice. -/
def shuffledMembers : List (String × Json) :=
  [("architecture", .null), ("createdTime", .string (some "2018-01-01T00:00:00Z")),
    ("timestamp", .null), ("architecture", .array [] true),
    ("tags", .array [.string (some "live\n")] true), ("digest", .string (some "sha256:4b0c"))]

/-- The text of a listing with them. -/
def shuffledText : List UInt8 :=
  Text.Utf8.encode <| Json.arrayText [Json.objectText
    [("architecture", "null".toList), ("createdTime", Json.quote "2018-01-01T00:00:00Z"),
      ("timestamp", "null".toList), ("architecture", Json.arrayText []),
      ("tags", Json.arrayText [Json.quote "live\n"]), ("digest", Json.quote "sha256:4b0c")]]

/-- The manifest that both describe. -/
def sampleManifest : Manifest :=
  ⟨"sha256:4b0c", ["live\n"], (Instant.ofText? "2018-01-01T00:00:00Z").get (by decide +kernel)⟩

lemma spells_sampleText :
    Json.Spells sampleText (.array ([sampleMembers].map Json.record) true) := by
  refine Json.Writes.spells (Json.writes_arrayText (.cons (Json.writes_objectText ?_) .nil))
  exact .cons ⟨rfl, Json.writes_quote _⟩ <|
    .cons ⟨rfl, Json.writes_arrayText (.cons (Json.writes_quote _) .nil)⟩ <|
    .cons ⟨rfl, Json.writes_null⟩ <| .cons ⟨rfl, Json.writes_quote _⟩ <|
    .cons ⟨rfl, Json.writes_quote _⟩ .nil

lemma spells_shuffledText :
    Json.Spells shuffledText (.array ([shuffledMembers].map Json.record) true) := by
  refine Json.Writes.spells (Json.writes_arrayText (.cons (Json.writes_objectText ?_) .nil))
  exact .cons ⟨rfl, Json.writes_null⟩ <| .cons ⟨rfl, Json.writes_quote _⟩ <|
    .cons ⟨rfl, Json.writes_null⟩ <| .cons ⟨rfl, Json.writes_arrayText .nil⟩ <|
    .cons ⟨rfl, Json.writes_arrayText (.cons (Json.writes_quote _) .nil)⟩ <|
    .cons ⟨rfl, Json.writes_quote _⟩ .nil

lemma describes_sampleMembers : Describes sampleMembers sampleManifest where
  digest := by simp [valuesOf, sampleMembers, sampleManifest]
  tags := .given ["live\n"]
  dates := by
    have htext : Instant.ofText? "2018-01-01T00:00:00Z" = some sampleManifest.timestamp :=
      (Option.some_get (by decide +kernel)).symm
    exact ⟨none, none, some sampleManifest.timestamp, .null, .absent, .text htext, rfl⟩

/-- Both texts are decoded to the one manifest. -/
theorem decode_complete_shuffled :
    Json.Spells sampleText (.array ([sampleMembers].map Json.record) true) ∧
    Json.Spells shuffledText (.array ([shuffledMembers].map Json.record) true) ∧
    SameKnown sampleMembers shuffledMembers ∧
    decode "listing.json" sampleText = .ok [sampleManifest] ∧
    decode "listing.json" shuffledText = .ok [sampleManifest] := by
  obtain ⟨-, hresult, -, hsame⟩ := decode_complete "listing.json" spells_sampleText
  have hreverse : sampleMembers.filter isKnown = (shuffledMembers.filter isKnown).reverse := rfl
  have hmembers : SameKnown sampleMembers shuffledMembers := by
    rw [SameKnown, hreverse]
    exact List.reverse_perm _
  have hdecoded : decode "listing.json" sampleText = .ok [sampleManifest] :=
    (hresult _).mpr (.cons describes_sampleMembers .nil)
  exact ⟨spells_sampleText, spells_shuffledText, hmembers, hdecoded,
    (hsame _ _ spells_shuffledText (.cons hmembers .nil) _).mp hdecoded⟩

end ImageRetention.Manifest
