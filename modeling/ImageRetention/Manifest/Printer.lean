import ImageRetention.Instant.Printer
import ImageRetention.Json.Printer
import ImageRetention.Manifest
import ImageRetention.Text.Utf8

/-
Writing manifest listings:

* `Manifest.toChars`: a manifest as a JSON object of its digest, its tags and its timestamp;
* `Manifest.listingText`, `Manifest.listingBytes`: a listing as a JSON array of them.
-/

namespace ImageRetention.Manifest

/-- A manifest as a JSON object. -/
def toChars (manifest : Manifest) : List Char :=
  Json.objectText
    [("digest", Json.quote manifest.digest),
     ("tags", Json.arrayText (manifest.tags.map Json.quote)),
     ("timestamp", Json.quote manifest.timestamp.text)]

/-- A listing as a JSON array. -/
def listingText (manifests : List Manifest) : String :=
  String.ofList (Json.arrayText (manifests.map toChars))

/-- A listing as the bytes of a JSON array. -/
def listingBytes (manifests : List Manifest) : List UInt8 :=
  Text.Utf8.bytesOf (listingText manifests)

end ImageRetention.Manifest
