import ImageRetention.Command.Azure
import ImageRetention.Image.Target
import ImageRetention.Manifest.Listing
import ImageRetention.Reading
import ImageRetention.Registry
import ImageRetention.Text.Quoted

/-
A registry repository as the Azure command line tells it, with listings from a file if one is
given.

* `Manifest.decode`: a listing from bytes, or the failure to understand it;
* `World.readListing`: the listing in a file;
* `AzureRegistry.registry`: listing and deleting as runs of the Azure command line.
-/

namespace ImageRetention

variable {σ : Type}

/-- The manifests of a listing as bytes.  Failures name where the listing came from. -/
def Manifest.decode (source : String) (bytes : List UInt8) : Except Cause (List Manifest) :=
  (Manifest.ofBytes bytes).mapError fun problem => .badListing source problem.message

/-- The manifests of the listing in a file. -/
def World.readListing (world : World σ) (path : String) : Run σ (List Manifest) := do
  let bytes ← (world.read path (.listingRead path)).within
    ("Failed to read manifests from " ++ path)
  let manifests ← Run.ofExcept (Manifest.decode path bytes)
  Run.log .debug .registry
    ("Loaded " ++ toString manifests.length ++ " manifests from " ++ path)
  return manifests

/-- A repository of an Azure registry. -/
structure AzureRegistry where
  target : Target
  /-- The file with the listing, if it is not asked for. -/
  listing : Option String
  deriving DecidableEq, Repr

namespace AzureRegistry

/-- All manifests in the repository. -/
def list (world : World σ) (azure : AzureRegistry) : Run σ (List Manifest) :=
  match azure.listing with
  | some path => world.readListing path
  | none => do
    let command := Azure.showManifests azure.target.registry azure.target.repository
    let bytes ← (command.execute world).within "Failed to list registry manifests"
    let manifests ← Run.ofExcept (Manifest.decode command.text bytes)
    Run.log .debug .azure
      ("Registry returned " ++ toString manifests.length ++ " manifests")
    return manifests

/-- Deletes the image with the digest of a manifest. -/
def delete (world : World σ) (azure : AzureRegistry) (manifest : Manifest) : Run σ Unit := do
  Run.log .info .azure
    ("Deleting " ++ manifest.digest ++ " (tags: " ++ Text.quotedList manifest.tags ++ ")")
  let command :=
    Azure.deleteImage azure.target.registry azure.target.repository manifest.digest
  let _ ← (command.execute world).within ("Failed to delete manifest " ++ manifest.digest)

/-- The repository as a registry. -/
def registry (world : World σ) (azure : AzureRegistry) : Registry σ :=
  ⟨azure.list world, azure.delete world⟩

end AzureRegistry

end ImageRetention
