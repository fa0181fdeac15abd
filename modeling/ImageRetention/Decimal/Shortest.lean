import ImageRetention.Decimal.Binary64

/-
The shortest decimal of a binary magnitude:

* `Scientific`: digits and the power of ten of the first of them;
* `shortest`: the fewest digits that read back as the magnitude, and of those the nearest;
* `Layout`: what a tie between two nearest decimals gives, and where positional notation ends;
* `Layout.text`: a magnitude written in a layout.
-/

namespace ImageRetention.Decimal

/-- Decimal digits with the power of ten of the first one. -/
structure Scientific where
  digits : List Char
  power : Int
  deriving DecidableEq, Repr

/-- The ratio of a natural number and a power of ten. -/
def scaled (n : Nat) (power : Int) : Nat × Nat :=
  if 0 ≤ power then (n * Nat.pow 10 power.toNat, 1) else (n, Nat.pow 10 (-power).toNat)

/-- The power of ten of the first digit of a positive ratio: a guess from the binary length,
made exact by at most two steps. -/
def powerOf (n d : Nat) : Int :=
  let guess : Int := (((Nat.log2 n : Int) - Nat.log2 d - 1) * 30103) / 100000 - 1
  let reaches (power : Int) : Bool :=
    let (a, b) := scaled 1 power
    a * d ≤ n * b
  let step (power : Int) : Int := if reaches (power + 1) then power + 1 else power
  step (step (step guess))

/-- The nearest decimal to a magnitude among those with so many digits, if it reads back as
the magnitude. -/
def withDigits? (tie : Tie) (x : Binary64) (power : Int) (count : Nat) : Option (Nat × Int) :=
  let unit := power - (count - 1 : Nat)
  let (n, d) := x.toRatio
  let (a, b) := scaled 1 unit
  let below := n * b / (d * a)
  let readsBack (k : Nat) : Bool :=
    let (u, v) := scaled k unit
    Binary64.ofRatio? u v == some x
  let nearest := roundDiv tie (n * b) (d * a)
  let other := if nearest = below then below + 1 else below
  if readsBack nearest then some (nearest, unit)
  else if readsBack other then some (other, unit)
  else none

/-- A number of digits and a unit, without zeros at the end. -/
def normalize (k : Nat) (unit : Int) : Scientific :=
  let digits := Nat.toDigits 10 k
  let power := unit + (digits.length - 1 : Nat)
  ⟨(digits.reverse.dropWhile (· == '0')).reverse, power⟩

/-- The fewest digits that read back as a magnitude, and of those the nearest.  Seventeen
digits always do. -/
def shortest (tie : Tie) (x : Binary64) : Scientific :=
  if x.mantissa = 0 then ⟨['0'], 0⟩
  else
    let (n, d) := x.toRatio
    let power := powerOf n d
    match (List.range 17).findSome? fun i => withDigits? tie x power (i + 1) with
    | some (k, unit) => normalize k unit
    | none => ⟨['0'], 0⟩

namespace Scientific

/-- Digits without an exponent, with at least one digit on either side of the point. -/
def positional (s : Scientific) : List Char :=
  if s.power < 0 then
    '0' :: '.' :: List.replicate (-s.power - 1).toNat '0' ++ s.digits
  else
    let whole := s.power.toNat + 1
    if s.digits.length ≤ whole then
      s.digits ++ List.replicate (whole - s.digits.length) '0' ++ ['.', '0']
    else s.digits.take whole ++ '.' :: s.digits.drop whole

/-- Digits with an exponent, which has a sign. -/
def exponential (s : Scientific) : List Char :=
  s.digits.take 1 ++ (if s.digits.length ≤ 1 then [] else '.' :: s.digits.drop 1)
    ++ 'e' :: (if s.power < 0 then '-' else '+') :: Nat.toDigits 10 s.power.natAbs

end Scientific

/-- How magnitudes are written. -/
structure Layout where
  /-- Which of two decimals that are equally near is written. -/
  tie : Tie
  /-- The least and the greatest power of ten of a first digit that are written without an
  exponent; all are, if there is no such range. -/
  positional : Option (Int × Int)
  deriving DecidableEq, Repr

/-- A magnitude written in a layout. -/
def Layout.text (layout : Layout) (x : Binary64) : List Char :=
  let s := shortest layout.tie x
  match layout.positional with
  | none => s.positional
  | some (least, greatest) =>
    if least ≤ s.power ∧ s.power ≤ greatest then s.positional else s.exponential

end ImageRetention.Decimal
