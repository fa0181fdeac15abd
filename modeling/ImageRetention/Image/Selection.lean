import ImageRetention.Failure
import ImageRetention.Image.Target

/-
From references to the tags they keep alive.

* `Target.tagsOf`: the tags of the references to a repository, or the first of those
  references that has none;
* `Target.ignored`: the references to something else that are passed over.
-/

namespace ImageRetention.Target

/-- The tags of those references that are to the repository, up to the first malformed
one. -/
def tagsOf (target : Target) : List ImageReference → Except Cause (List ImageTag)
  | [] => .ok []
  | reference :: rest =>
    match target.judge reference with
    | .foreign => target.tagsOf rest
    | .malformed => .error (.malformedReference reference.text)
    | .live tag => do
      let tags ← target.tagsOf rest
      .ok (tag :: tags)

/-- The references to something else, as far as references are looked at. -/
def ignored (target : Target) : List ImageReference → List ImageReference
  | [] => []
  | reference :: rest =>
    match target.judge reference with
    | .foreign => reference :: target.ignored rest
    | .malformed => []
    | .live _ => target.ignored rest

end ImageRetention.Target
