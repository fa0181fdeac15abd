import ImageRetention.Image

/-
The registry repository whose images are swept:

* `Target`: a registry and a repository in it;
* `Target.expectedPrefix`: how the references to its images start;
* `Target.judge`: what a reference means for it: foreign, the tag it makes live, or malformed.
-/

namespace ImageRetention

/-- A repository in a registry. -/
structure Target where
  /-- The name of the registry, without the domain. -/
  registry : String
  /-- The name of the repository in it. -/
  repository : String
  deriving DecidableEq, Repr

namespace Target

/-- The domain of all registries. -/
def domainSuffix : String := ".azurecr.io"

/-- How references to images of the repository start. -/
def expectedPrefix (target : Target) : String :=
  target.registry ++ domainSuffix ++ "/" ++ target.repository

/-- Whether a reference starts like those to images of the repository. -/
def covers (target : Target) (reference : ImageReference) : Bool :=
  target.expectedPrefix.toList.isPrefixOf reference.text.toList

/-- What a reference means for a repository. -/
inductive Verdict
  /-- It is a reference to something else. -/
  | foreign
  /-- It keeps a tag alive. -/
  | live (tag : ImageTag)
  /-- It is a reference to the repository without a tag. -/
  | malformed
  deriving DecidableEq, Repr

/-- What a reference means for a repository. -/
def judge (target : Target) (reference : ImageReference) : Verdict :=
  if target.covers reference then
    match reference.tag? with
    | some tag => if tag.text = "" then .malformed else .live tag
    | none => .malformed
  else .foreign

end Target

end ImageRetention
