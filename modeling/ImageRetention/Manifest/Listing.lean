import ImageRetention.Decoding
import ImageRetention.Instant.Reader
import ImageRetention.Json.Reader
import ImageRetention.Manifest

/-
Decoding manifest listings:

* `Draft`: the members of an entry that were met so far;
* `entry`: one entry, an object with named members or an array with the same values in order;
* `listing`: a JSON array of entries, all of them or none;
* `ofBytes`: the manifests of a listing as bytes.

An entry is dated by the first of its members `timestamp`, `lastUpdateTime` and `createdTime`
that is not null.  Members with other names are skipped, whatever they hold.
-/

namespace ImageRetention.Manifest

open Decoding (Problem mismatch string stringList)

/-! ### Entries -/

/-- The members of an entry met so far.  A date that is given as null has been met. -/
structure Draft where
  digest : Option String := none
  tags : Option (List String) := none
  timestamp : Option (Option Instant) := none
  lastUpdateTime : Option (Option Instant) := none
  createdTime : Option (Option Instant) := none
  deriving DecidableEq, Repr

/-- An instant, or null for none. -/
def date : Json → Except Problem (Option Instant)
  | .null => .ok none
  | .string (some text) =>
    match Instant.ofText? text with
    | some instant => .ok (some instant)
    | none => .error .unreadable
  | value => .error (mismatch value "an RFC 3339 formatted date and time string")

/-- A value for a member that must not have been met before. -/
def once {α : Type} (name : String) (before : Option α) (decoded : Except Problem α) :
    Except Problem (Option α) :=
  match before with
  | some _ => .error (.duplicateField name)
  | none => decoded.map some

/-- A draft with one more member.  A member of another name need only be free of faults. -/
def Draft.withMember (draft : Draft) (name : String) (value : Json) : Except Problem Draft :=
  match name with
  | "digest" => do
    return { draft with digest := ← once name draft.digest (string value) }
  | "tags" => do
    return { draft with tags := ← once name draft.tags (stringList value) }
  | "timestamp" => do
    return { draft with timestamp := ← once name draft.timestamp (date value) }
  | "lastUpdateTime" => do
    return { draft with lastUpdateTime := ← once name draft.lastUpdateTime (date value) }
  | "createdTime" => do
    return { draft with createdTime := ← once name draft.createdTime (date value) }
  | _ => if value.isSound then .ok draft else .error .unreadable

/-- A draft with further members, up to the first problem. -/
def Draft.withMembers : Draft → List (Option String × Json) → Except Problem Draft
  | draft, [] => .ok draft
  | _, (none, _) :: _ => .error .unreadable
  | draft, (some name, value) :: members => do
    let next ← draft.withMember name value
    next.withMembers members

/-- The manifest of an entry whose members have all been met. -/
def Draft.finish (draft : Draft) : Except Problem Manifest :=
  match draft.digest with
  | none => .error (.missingField "digest")
  | some digest =>
    let dates := [draft.timestamp, draft.lastUpdateTime, draft.createdTime]
    match dates.findSome? fun given => given.join with
    | none => .error (.undatedManifest digest)
    | some timestamp => .ok ⟨digest, draft.tags.getD [], timestamp⟩

/-- The members that an entry written as an array gives by their places. -/
def placed : List Json → Except Problem Draft
  | [] => .error .unreadable
  | digest :: rest => do
    let digest ← string digest
    match rest with
    | [] => .error .unreadable
    | tags :: dates => do
      let tags ← stringList tags
      let dates ← go dates
      match dates with
      | [timestamp, lastUpdateTime, createdTime] =>
        .ok ⟨some digest, some tags, some timestamp, some lastUpdateTime, some createdTime⟩
      | _ => .error .unreadable
where
  /-- The dates at the end of the array, at most three of them. -/
  go (values : List Json) : Except Problem (List (Option Instant)) :=
    (values.take 3).mapM date >>= fun dates =>
      if values.length ≤ 3 then .ok dates else .error .unreadable

/-- One entry of a listing. -/
def entry : Json → Except Problem Manifest
  | .object members closed => do
    let draft ← Draft.withMembers {} members
    if closed then draft.finish else .error .unreadable
  | .array items closed => do
    let draft ← placed items
    if closed then draft.finish else .error .unreadable
  | value => .error (mismatch value "struct RawManifest")

/-! ### Listings -/

/-- Entries, up to the first problem. -/
def entries : List Json → Except Problem (List Manifest)
  | [] => .ok []
  | item :: items => do
    let manifest ← entry item
    let manifests ← entries items
    .ok (manifest :: manifests)

/-- A listing: an array of entries. -/
def listing : Json → Except Problem (List Manifest)
  | .array items closed => do
    let manifests ← entries items
    if closed then .ok manifests else .error .unreadable
  | value => .error (mismatch value "a sequence")

/-- The manifests of a listing, or the first problem in it. -/
def ofBytes (bytes : List UInt8) : Except Problem (List Manifest) :=
  Decoding.document listing (Json.Document.ofBytes bytes)

end ImageRetention.Manifest
