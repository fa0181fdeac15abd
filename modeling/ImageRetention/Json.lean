/-
JSON documents as they are read, faults included:

* `Json`: a value, in which the place where reading broke off is a leaf of its own;
* `Json.NumberText`: a number as it is written;
* `Json.isSound`: whether nothing below a value is a fault.

A reader that meets a value of the wrong type and a syntax fault reports the first of the two
in document order.  Keeping the fault in the tree lets the decoders of particular documents
walk it in that order and stop at whichever comes first.
-/

namespace ImageRetention

/-- A number as it is written. -/
structure Json.NumberText where
  negative : Bool
  /-- The digits before the point. -/
  whole : List Char
  /-- The digits after the point, none if there is no point. -/
  fraction : List Char
  /-- Whether the exponent is negative, and its digits. -/
  exponent : Option (Bool × List Char)
  deriving DecidableEq, Repr

/-- A JSON value as far as it was read.  Strings and member names that are not Unicode text
have no text.  An array or object that was not closed is one that reading broke off in. -/
inductive Json
  | null
  | bool (value : Bool)
  | number (text : Json.NumberText)
  | string (text : Option String)
  | array (items : List Json) (closed : Bool)
  | object (members : List (Option String × Json)) (closed : Bool)
  /-- Reading broke off here. -/
  | fault
  deriving Repr

namespace Json

mutual

/-- Whether nothing at or below a value is a fault. -/
def isSound : Json → Bool
  | array items closed => closed && areSound items
  | object members closed => closed && membersAreSound members
  | fault => false
  | _ => true

/-- Whether all of some values are sound. -/
def areSound : List Json → Bool
  | [] => true
  | item :: items => isSound item && areSound items

/-- Whether the values of all of some members are sound. -/
def membersAreSound : List (Option String × Json) → Bool
  | [] => true
  | (_, value) :: members => isSound value && membersAreSound members

end

/-- A whole text: its value, and whether nothing but blanks follows it. -/
structure Document where
  value : Json
  ended : Bool
  deriving Repr

end Json

end ImageRetention
