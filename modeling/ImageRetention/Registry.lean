import ImageRetention.Run

/-
A registry repository, as something that lists its manifests and deletes them.
-/

namespace ImageRetention

/-- A registry repository. -/
structure Registry (σ : Type) where
  /-- All manifests in the repository. -/
  list : Run σ (List Manifest)
  /-- Deletes the image that a manifest names by its digest. -/
  delete : Manifest → Run σ Unit

end ImageRetention
