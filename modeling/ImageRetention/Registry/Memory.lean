import ImageRetention.Registry

/-
A registry kept in memory: a listing that never changes, digests whose deletion fails, and the
deletions made so far as the state.
-/

namespace ImageRetention

/-- A registry kept in memory. -/
structure Registry.Memory where
  listing : List Manifest
  /-- The digests that cannot be deleted. -/
  failing : List String
  deriving DecidableEq, Repr

namespace Registry.Memory

/-- The failure of a deletion. -/
def refusal (digest : String) : Cause :=
  .azFailed
    { command := "az acr repository delete --image repo@" ++ digest
      exitCode := some 1
      stdout := ""
      stderr := "ERROR: image not found" }

/-- Deletes a manifest: its digest is added to those deleted so far. -/
def delete (memory : Memory) (manifest : Manifest) : Run (List String) Unit := fun deleted =>
  if memory.failing.contains manifest.digest then
    Run.failFor (refusal manifest.digest) deleted
  else ⟨deleted ++ [manifest.digest], [], .ok ()⟩

/-- The registry that is kept. -/
def registry (memory : Memory) : Registry (List String) :=
  ⟨pure memory.listing, memory.delete⟩

end Registry.Memory

end ImageRetention
