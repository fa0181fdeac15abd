import ImageRetention.Json.Number
import ImageRetention.Text.Quoted

/-
What can be wrong with a document that is decoded:

* `Decoding.Problem`: the faults that are told apart, with their wording in `message`;
* `Json.describe?`: a value as a wrong-type message names it;
* `Decoding.string`, `Decoding.stringList`: texts and lists of texts from JSON values.
-/

namespace ImageRetention

/-! ### Problems -/

namespace Decoding

/-- What is wrong with a document. -/
inductive Problem
  /-- It breaks the rules of its notation, or a text in it has no meaning.  Which rule is
  broken is not told. -/
  | unreadable
  /-- A value has the wrong type. -/
  | wrongType (found expected : String)
  /-- A value has the right type and is out of range. -/
  | wrongValue (found expected : String)
  /-- A member that must be there is not. -/
  | missingField (name : String)
  /-- A member occurs twice. -/
  | duplicateField (name : String)
  /-- A member has a name that is not one of the known ones. -/
  | unknownField (name : String) (known : List String)
  /-- A manifest has none of the three members that date it. -/
  | undatedManifest (digest : String)
  deriving DecidableEq, Repr

/-- A name between backquotes. -/
def backquoted (name : String) : String :=
  "\x60" ++ name ++ "\x60"

/-- The wording of a problem. -/
def Problem.message : Problem → String
  | unreadable => "<decoder>"
  | wrongType found expected => "invalid type: " ++ found ++ ", expected " ++ expected
  | wrongValue found expected => "invalid value: " ++ found ++ ", expected " ++ expected
  | missingField name => "missing field " ++ backquoted name
  | duplicateField name => "duplicate field " ++ backquoted name
  | unknownField name known =>
    "unknown field " ++ backquoted name ++ ", expected one of "
      ++ String.intercalate ", " (known.map backquoted)
  | undatedManifest digest => "manifest " ++ digest ++ " has no timestamp"

end Decoding

/-! ### Values of the wrong type -/

/-- A value as a wrong-type message names it; none where reading broke off, or where the
value is no text or number that could be named. -/
def Json.describe? : Json → Option String
  | null => some "null"
  | bool value => some ("boolean " ++ Decoding.backquoted (if value then "true" else "false"))
  | number text => text.value?.map Json.Number.describe
  | string text => text.map fun text => "string " ++ Text.quoted text
  | array _ _ => some "sequence"
  | object _ _ => some "map"
  | fault => none

namespace Decoding

/-- The problem that a value of the wrong type is. -/
def mismatch (value : Json) (expected : String) : Problem :=
  match value.describe? with
  | some found => .wrongType found expected
  | none => .unreadable

/-! ### Texts -/

/-- A text. -/
def string : Json → Except Problem String
  | .string (some text) => .ok text
  | value => .error (mismatch value "a string")

/-- Texts, up to the first item that is none. -/
def strings : List Json → Except Problem (List String)
  | [] => .ok []
  | item :: items => do
    let text ← string item
    let texts ← strings items
    .ok (text :: texts)

/-- A list of texts. -/
def stringList : Json → Except Problem (List String)
  | .array items closed => do
    let texts ← strings items
    if closed then .ok texts else .error .unreadable
  | value => .error (mismatch value "a sequence")

/-- A whole document, once its value is decoded. -/
def document {α : Type} (decode : Json → Except Problem α) (text : Json.Document) :
    Except Problem α := do
  let value ← decode text.value
  if text.ended then .ok value else .error .unreadable

end Decoding

end ImageRetention
