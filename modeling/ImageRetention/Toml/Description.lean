import ImageRetention.Decimal.Shortest
import ImageRetention.Decoding
import ImageRetention.Toml

/-
TOML values as error messages name them.

* `Toml.Real.text?`: a floating-point number by its shortest decimal, without an exponent;
* `Toml.describe?`: a value, unless it is a number that is too large to be named, or none.
-/

namespace ImageRetention.Toml

open Decimal (Binary64)
open Decoding (backquoted)

/-- A decimal power beyond which every number is too large, or too small to differ from zero. -/
def powerLimit : Nat := 400

/-- The magnitude nearest to a significand times a power of ten, unless it is too large. -/
def nearest? (significand : Nat) (power : Int) : Option Binary64 :=
  let size : Int := power + (Nat.toDigits 10 significand).length
  if significand = 0 ∨ size < -powerLimit then some Binary64.zero
  else if powerLimit < size then none
  else if 0 ≤ power then Binary64.ofRatio? (significand * Nat.pow 10 power.toNat) 1
  else Binary64.ofRatio? significand (Nat.pow 10 (-power).toNat)

/-- How error messages write a magnitude: without an exponent, and of two equally near
decimals the greater one. -/
def Real.style : Decimal.Layout := ⟨.up, none⟩

/-- A floating-point number by its shortest decimal. -/
def Real.text? : Real → Option String
  | finite negative significand power => do
    let magnitude ← nearest? significand power
    let digits := style.text magnitude
    some (String.ofList (if negative then '-' :: digits else digits))
  | infinite negative => some (if negative then "-inf" else "inf")
  | undefined => some "NaN"

/-- An integer as error messages name it: one beyond 64 bits says how many bits it takes, and
one beyond 128 bits has no name. -/
def describeInteger? (n : Int) : Option String :=
  let named := "integer " ++ backquoted (toString n)
  if -Int.pow 2 63 ≤ n ∧ n < Int.pow 2 64 then some named
  else if -Int.pow 2 127 ≤ n ∧ n < Int.pow 2 127 then some (named ++ " as i128")
  else if 0 ≤ n ∧ n < Int.pow 2 128 then some (named ++ " as u128")
  else none

/-- A value as error messages name it. -/
def describe? : Toml → Option String
  | string text => some ("string " ++ Text.quoted text)
  | integer n => describeInteger? n
  | illegible => none
  | real value => value.text?.map fun text => "floating point " ++ backquoted text
  | boolean value => some ("boolean " ++ backquoted (if value then "true" else "false"))
  | dateTime => some "map"
  | array _ => some "sequence"
  | tables _ => some "sequence"
  | table _ _ => some "map"

end ImageRetention.Toml
