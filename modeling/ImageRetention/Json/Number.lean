import ImageRetention.Json
import ImageRetention.Decimal.Shortest
import ImageRetention.Text.Digits

/-
What a JSON number stands for:

* `Number`: an integer of 64 bits, or a binary floating-point magnitude with a sign;
* `Json.NumberText.value?`: a number that is written as an integer and fits is one, and any
  other is the magnitude computed from its first digits and its power of ten;
* `Number.describe`: a number as error messages name it.
-/

namespace ImageRetention.Json

open Decimal

/-- What a number stands for. -/
inductive Number
  | integer (value : Int)
  | real (negative : Bool) (magnitude : Binary64)
  deriving DecidableEq, Repr

namespace Number

/-- The digits of a number as far as they fit into 64 bits, and how many were left out. -/
def significant (start : Nat) : List Char → Nat × List Char
  | [] => (start, [])
  | c :: rest =>
    let next := 10 * start + Text.digitValue c
    if next < Nat.pow 2 64 then significant next rest else (start, c :: rest)

/-- The power of ten that is the largest step of one scaling. -/
def largestStep : Nat := 308

/-- A magnitude times a power of ten, in steps that are each rounded once; none if it grows
too large.  A power below every magnitude gives zero. -/
def scaleByTen : Nat → Binary64 → Int → Option Binary64
  | 0, _, _ => some Binary64.zero
  | fuel + 1, x, power =>
    if power.natAbs ≤ largestStep then do
      let ten ← Binary64.ofNat? (Nat.pow 10 power.natAbs)
      if 0 ≤ power then x.mul? ten else x.div? ten
    else if x.mantissa = 0 then some x
    else if 0 ≤ power then none
    else do
      let ten ← Binary64.ofNat? (Nat.pow 10 largestStep)
      let smaller ← x.div? ten
      scaleByTen fuel smaller (power + largestStep)

/-- A significand times a power of ten.  Eight steps take every significand to zero. -/
def magnitude? (significand : Nat) (power : Int) : Option Binary64 := do
  let x ← Binary64.ofNat? significand
  scaleByTen 8 x power

/-- The greatest exponent that is computed with; a greater one is beyond all magnitudes. -/
def exponentLimit : Nat := Nat.pow 2 31 - 1

/-- How error messages write a magnitude: with an exponent below 10⁻⁵ and from 10¹⁶ on, and
of two equally near decimals the even one. -/
def style : Layout := ⟨.even, some (-5, 15)⟩

/-- A number as error messages name it: integers by their digits, magnitudes by their
shortest decimal. -/
def describe : Number → String
  | integer value => "integer `" ++ toString value ++ "`"
  | real negative magnitude =>
    let digits := style.text magnitude
    "floating point `" ++ String.ofList (if negative then '-' :: digits else digits) ++ "`"

end Number

open Number in
/-- What a number stands for, unless it is beyond all magnitudes. -/
def NumberText.value? (text : NumberText) : Option Number :=
  let (start, dropped) := significant 0 text.whole
  let isInteger := text.fraction.isEmpty && text.exponent.isNone && dropped.isEmpty
  if isInteger && !text.negative then some (.integer start)
  else if isInteger && 0 < start && start ≤ Nat.pow 2 63 then some (.integer (-(start : Int)))
  else
    let (significand, rest) := significant start text.fraction
    let power : Int := dropped.length - (text.fraction.length - rest.length : Nat)
    let magnitude := match text.exponent with
      | none => magnitude? significand power
      | some (down, digits) =>
        let size := Text.valueOf digits
        if exponentLimit < size then
          if !down && significand != 0 then none else some Binary64.zero
        else magnitude? significand (if down then power - size else power + size)
    magnitude.map (real text.negative)

end ImageRetention.Json
