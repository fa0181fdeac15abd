import ImageRetention.Failure
import ImageRetention.History.Name
import ImageRetention.Text.Blank
import ImageRetention.Text.Lines

/-
Tree listings: one entry a line, with a mode, a type, a name and a path.

* `TreeListing.kindAndName?`: the type and the name in a line of at least three fields;
* `TreeListing.objects`: the names of the file revisions in a listing, or its first
  malformed line;
* `TreeListing.visited`: the lines that are looked at, which end with a malformed one.
-/

namespace ImageRetention.TreeListing

/-- The type of the entries that are file revisions; others are directories and the like. -/
def fileType : List Char := ['b', 'l', 'o', 'b']

/-- The type and the name in a line of at least three fields. -/
def kindAndName? (line : List Char) : Option (List Char × List Char) :=
  match Text.fields line with
  | _ :: kind :: name :: _ => some (kind, name)
  | _ => none

/-- The names of the file revisions in some lines, or the first malformed line. -/
def objectsOf : List (List Char) → Except Cause (List ObjectId)
  | [] => .ok []
  | line :: rest =>
    match kindAndName? line with
    | none => .error (.badTreeLine (String.ofList line))
    | some (kind, name) => do
      let names ← objectsOf rest
      .ok (if kind = fileType then ⟨String.ofList name⟩ :: names else names)

/-- The names of the file revisions in a listing, or its first malformed line. -/
def objects (listing : String) : Except Cause (List ObjectId) :=
  objectsOf (Text.lines listing.toList)

/-- The lines up to and with the first malformed one. -/
def visitedOf : List (List Char) → List (List Char)
  | [] => []
  | line :: rest => if (kindAndName? line).isNone then [line] else line :: visitedOf rest

/-- The lines of a listing that are looked at. -/
def visited (listing : String) : List String :=
  (visitedOf (Text.lines listing.toList)).map String.ofList

end ImageRetention.TreeListing
