/-
Magnitudes of the 64-bit binary floating-point format, in exact arithmetic:

* `Tie`, `roundDiv`: a quotient rounded to the nearest number, with a rule for ties;
* `Binary64`: a mantissa below 2⁵³ and a power of two;
* `Binary64.ofRatio?`: the magnitude nearest to a ratio, ties to the even mantissa, and none
  for a ratio that is too large;
* `Binary64.mul?`, `Binary64.div?`: products and quotients, rounded once.
-/

namespace ImageRetention.Decimal

/-! ### Rounding -/

/-- Which of two numbers that are equally near is taken. -/
inductive Tie
  /-- The even one. -/
  | even
  /-- The greater one. -/
  | up
  deriving DecidableEq, Repr

/-- A quotient rounded to the nearest number. -/
def roundDiv (tie : Tie) (n d : Nat) : Nat :=
  let q := n / d
  let r := n % d
  if 2 * r < d then q
  else if d < 2 * r then q + 1
  else match tie with
    | .even => q + q % 2
    | .up => q + 1

/-! ### Magnitudes -/

/-- A finite magnitude: `mantissa` times two to the power `exponent`. -/
structure Binary64 where
  mantissa : Nat
  exponent : Int
  deriving DecidableEq, Repr

namespace Binary64

/-- The least exponent, that of subnormal magnitudes. -/
def leastExponent : Int := -1074

/-- The greatest exponent. -/
def greatestExponent : Int := 971

def zero : Binary64 := ⟨0, leastExponent⟩

/-- A ratio divided by two to a power, as a ratio. -/
def scaleDown (n d : Nat) (exponent : Int) : Nat × Nat :=
  if 0 ≤ exponent then (n, d * Nat.pow 2 exponent.toNat) else (n * Nat.pow 2 (-exponent).toNat, d)

/-- The exponent for which a positive ratio has a mantissa of 53 bits. -/
def exponentOf (n d : Nat) : Int :=
  let guess : Int := (Nat.log2 n : Int) - Nat.log2 d - 52
  let (a, b) := scaleDown n d guess
  if a < b * Nat.pow 2 52 then guess - 1 else guess

/-- The magnitude nearest to a ratio, unless it is too large. -/
def ofRatio? (n d : Nat) : Option Binary64 :=
  if n = 0 then some zero
  else
    let exponent := max (exponentOf n d) leastExponent
    let (a, b) := scaleDown n d exponent
    let mantissa := roundDiv .even a b
    let rounded : Binary64 :=
      if mantissa = Nat.pow 2 53 then ⟨Nat.pow 2 52, exponent + 1⟩ else ⟨mantissa, exponent⟩
    if rounded.exponent ≤ greatestExponent then some rounded else none

/-- The exact value of a magnitude, as a ratio. -/
def toRatio (x : Binary64) : Nat × Nat :=
  if 0 ≤ x.exponent then (x.mantissa * Nat.pow 2 x.exponent.toNat, 1)
  else (x.mantissa, Nat.pow 2 (-x.exponent).toNat)

/-- The magnitude nearest to a natural number. -/
def ofNat? (n : Nat) : Option Binary64 :=
  ofRatio? n 1

/-- The product of two magnitudes, rounded once. -/
def mul? (x y : Binary64) : Option Binary64 :=
  let (a, b) := x.toRatio
  let (c, d) := y.toRatio
  ofRatio? (a * c) (b * d)

/-- The quotient of two magnitudes, rounded once. -/
def div? (x y : Binary64) : Option Binary64 :=
  let (a, b) := x.toRatio
  let (c, d) := y.toRatio
  ofRatio? (a * d) (b * c)

end Binary64

end ImageRetention.Decimal
