import ImageRetention.SortedSet
import ImageRetention.Text.Split

/-
Names of images:

* `ImageReference`: the full name of an image, as it is written in a build configuration;
* `ImageTag`: the unit of liveness;
* `ImageReference.tag?`: everything after the first colon.
-/

namespace ImageRetention

/-- The full name of an image.  Any text is one: whether it names a tag is asked later. -/
structure ImageReference where
  text : String
  deriving DecidableEq, Repr

/-- The tag of an image. -/
structure ImageTag where
  text : String
  deriving DecidableEq, Repr

instance : Labelled ImageReference where
  label := ImageReference.text
  eq_of_label_eq := by rintro ⟨_⟩ ⟨_⟩ rfl; rfl

instance : Labelled ImageTag where
  label := ImageTag.text
  eq_of_label_eq := by rintro ⟨_⟩ ⟨_⟩ rfl; rfl

/-- The tag of a reference: everything after its first colon, if it has one. -/
def ImageReference.tag? (reference : ImageReference) : Option ImageTag :=
  (Text.splitOnce? ':' reference.text.toList).map fun parts => ⟨String.ofList parts.2⟩

end ImageRetention
