import ImageRetention.Instant

/-
Manifests of a registry repository: the unit of deletion, named by a digest, carrying tags,
and dated by its last update.
-/

namespace ImageRetention

/-- One image manifest of a registry repository. -/
structure Manifest where
  /-- The digest that names the manifest. -/
  digest : String
  /-- The tags that point at it; none if it is untagged. -/
  tags : List String
  /-- When it was last updated. -/
  timestamp : Instant
  deriving DecidableEq, Repr

end ImageRetention
