import ImageRetention.Registry
import ImageRetention.Retention

/-
Collecting the garbage of a registry.

* `collect`: lists the manifests, picks the garbage, and deletes it one by one; a dry run
  only reports what would be deleted;
* `Collection.deleteEach`: deletions in order, each reported once it is done, up to the first
  that fails.
-/

namespace ImageRetention

variable {σ : Type}

namespace Collection

/-- Deletes one manifest and reports it. -/
def deleteOne (registry : Registry σ) (manifest : Manifest) : Run σ Unit := do
  Run.emit (.deleting manifest)
  registry.delete manifest
  Run.emit (.deleted manifest)
  Run.emit (.reported manifest)

/-- Deletes manifests in order and reports each of them, up to the first failure. -/
def deleteEach (registry : Registry σ) : List Manifest → Run σ Unit
  | [] => pure ()
  | manifest :: rest => do
    deleteOne registry manifest
    deleteEach registry rest

/-- What is said about a listing: every manifest that is kept, and how many are garbage. -/
def announce (retention : Retention) (listing : List Manifest) : Run σ Unit := do
  Run.emitEach id (listing.filterMap retention.remark?)
  Run.log .info .retention
    (toString (retention.garbage listing).length ++ " of " ++ toString listing.length
      ++ " manifests are garbage")

end Collection

/-- Deletes the garbage of a registry, or only reports it on a dry run.  The garbage is the
result either way. -/
def collect (registry : Registry σ) (retention : Retention) (dryRun : Bool) :
    Run σ (List Manifest) := do
  let listing ← registry.list
  let garbage := retention.garbage listing
  Collection.announce retention listing
  if dryRun then Run.emitEach .reported garbage
  else Collection.deleteEach registry garbage
  return garbage

end ImageRetention
