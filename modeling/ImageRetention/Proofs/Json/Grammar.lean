import Mathlib.Tactic
import ImageRetention.Json.Reader

/-!
The grammar of JSON texts in UTF-8, told without a reader.

* `TextAt`: what is spelled up to the closing quote of a string;
* `NumberAt`: a number as it is written;
* `ValueAt`, `ItemsAt`, `MembersAt`: values, and what stands between brackets and braces;
* `Spells`: a whole text that spells a value.

Each relation is between the bytes from a place on, what is spelled there, and the bytes that
follow it.
-/

namespace ImageRetention.Json

/-! ### Blanks -/

/-- A byte that may stand around values and marks. -/
def IsBlank (b : UInt8) : Prop := b = 0x20 ∨ b = 0x09 ∨ b = 0x0A ∨ b = 0x0D

instance : DecidablePred IsBlank := fun _ => inferInstanceAs (Decidable (_ ∨ _))

/-- Only blanks stand before some bytes. -/
def Blanks (s t : List UInt8) : Prop := ∃ blanks, s = blanks ++ t ∧ ∀ b ∈ blanks, IsBlank b

/-! ### Strings -/

/-- A character that may stand between quotes as it is. -/
structure IsPlain (c : Char) : Prop where
  least : 0x20 ≤ c.toNat
  ne_quote : c ≠ '"'
  ne_backslash : c ≠ '\\'

/-- Four hexadecimal digits, as the code unit that they name. -/
def UnitDigits (a b c d : UInt8) (unit : ℕ) : Prop :=
  ∃ w x y z, hexValue? a = some w ∧ hexValue? b = some x ∧ hexValue? c = some y ∧
    hexValue? d = some z ∧ unit = ((w * 16 + x) * 16 + y) * 16 + z

/-- A text and its closing quote. -/
inductive TextAt : List UInt8 → List Char → List UInt8 → Prop
  | quote (rest : List UInt8) : TextAt (0x22 :: rest) [] rest
  | plain {c : Char} {s rest : List UInt8} {text : List Char} (hc : IsPlain c)
      (h : TextAt s text rest) : TextAt (String.utf8EncodeChar c ++ s) (c :: text) rest
  | short {letter named : UInt8} {s rest : List UInt8} {text : List Char}
      (hletter : shortEscape? letter = some named) (h : TextAt s text rest) :
      TextAt (0x5C :: letter :: s) (Char.ofNat named.toNat :: text) rest
  | unit {a b c d : UInt8} {u : ℕ} {s rest : List UInt8} {text : List Char}
      (hdigits : UnitDigits a b c d u) (hleading : isLeading u = false)
      (htrailing : isTrailing u = false) (h : TextAt s text rest) :
      TextAt (0x5C :: 0x75 :: a :: b :: c :: d :: s) (Char.ofNat u :: text) rest
  | pair {a b c d a' b' c' d' : UInt8} {u v : ℕ} {s rest : List UInt8} {text : List Char}
      (hdigits : UnitDigits a b c d u) (hleading : isLeading u = true)
      (hdigits' : UnitDigits a' b' c' d' v) (htrailing : isTrailing v = true)
      (h : TextAt s text rest) :
      TextAt (0x5C :: 0x75 :: a :: b :: c :: d :: 0x5C :: 0x75 :: a' :: b' :: c' :: d' :: s)
        (pairChar u v :: text) rest

/-! ### Numbers -/

/-- One or more decimal digits, up to the first byte that is none. -/
structure DigitsAt (s : List UInt8) (digits : List Char) (rest : List UInt8) : Prop where
  spelled : ∃ run, s = run ++ rest ∧ (run.map fun b => Char.ofNat b.toNat) = digits ∧
    ∀ b ∈ run, isDigit b = true
  ne_nil : digits ≠ []
  ends : ∀ b, rest.head? = some b → isDigit b = false

/-- The digits before the point: a zero alone, or digits that do not start with one. -/
structure WholeAt (s : List UInt8) (digits : List Char) (rest : List UInt8) : Prop
    extends DigitsAt s digits rest where
  leading : digits = ['0'] ∨ digits.head? ≠ some '0'

/-- A point and digits, or nothing. -/
inductive FractionAt : List UInt8 → List Char → List UInt8 → Prop
  | absent {s : List UInt8} (h : s.head? ≠ some 0x2E) : FractionAt s [] s
  | given {s rest : List UInt8} {digits : List Char} (h : DigitsAt s digits rest) :
      FractionAt (0x2E :: s) digits rest

/-- The sign of an exponent, or nothing. -/
inductive SignAt : List UInt8 → Bool → List UInt8 → Prop
  | absent {s : List UInt8} (hplus : s.head? ≠ some 0x2B) (hminus : s.head? ≠ some 0x2D) :
      SignAt s false s
  | plus (s : List UInt8) : SignAt (0x2B :: s) false s
  | minus (s : List UInt8) : SignAt (0x2D :: s) true s

/-- An exponent with its letter, or nothing. -/
inductive ExponentAt : List UInt8 → Option (Bool × List Char) → List UInt8 → Prop
  | absent {s : List UInt8} (hsmall : s.head? ≠ some 0x65) (hcapital : s.head? ≠ some 0x45) :
      ExponentAt s none s
  | given {letter : UInt8} {s t rest : List UInt8} {negative : Bool} {digits : List Char}
      (hletter : letter = 0x65 ∨ letter = 0x45) (hsign : SignAt s negative t)
      (h : DigitsAt t digits rest) : ExponentAt (letter :: s) (some (negative, digits)) rest

/-- A number, from after its sign. -/
inductive NumberAt (negative : Bool) : List UInt8 → NumberText → List UInt8 → Prop
  | parts {s t u rest : List UInt8} {whole fraction : List Char}
      {exponent : Option (Bool × List Char)} (hwhole : WholeAt s whole t)
      (hfraction : FractionAt t fraction u) (hexponent : ExponentAt u exponent rest) :
      NumberAt negative s ⟨negative, whole, fraction, exponent⟩ rest

/-! ### Values -/

/-- The name of a member and its colon, with blanks before both. -/
def NameAt (s : List UInt8) (name : List Char) (rest : List UInt8) : Prop :=
  ∃ t u, Blanks s (0x22 :: t) ∧ TextAt t name u ∧ Blanks u (0x3A :: rest)

/-- An object with given members. -/
def record (members : List (String × Json)) : Json :=
  .object (members.map fun member => (some member.1, member.2)) true

mutual

/-- A value, with blanks before it. -/
inductive ValueAt : List UInt8 → Json → List UInt8 → Prop
  | blank {b : UInt8} {s rest : List UInt8} {value : Json} (hb : IsBlank b)
      (h : ValueAt s value rest) : ValueAt (b :: s) value rest
  | null (rest : List UInt8) : ValueAt (0x6E :: 0x75 :: 0x6C :: 0x6C :: rest) .null rest
  | yes (rest : List UInt8) : ValueAt (0x74 :: 0x72 :: 0x75 :: 0x65 :: rest) (.bool true) rest
  | no (rest : List UInt8) :
      ValueAt (0x66 :: 0x61 :: 0x6C :: 0x73 :: 0x65 :: rest) (.bool false) rest
  | number {s rest : List UInt8} {text : NumberText} (h : NumberAt false s text rest) :
      ValueAt s (.number text) rest
  | negative {s rest : List UInt8} {text : NumberText} (h : NumberAt true s text rest) :
      ValueAt (0x2D :: s) (.number text) rest
  | string {s rest : List UInt8} {text : List Char} (h : TextAt s text rest) :
      ValueAt (0x22 :: s) (.string (some (String.ofList text))) rest
  | emptyArray {s rest : List UInt8} (h : Blanks s (0x5D :: rest)) :
      ValueAt (0x5B :: s) (.array [] true) rest
  | array {s rest : List UInt8} {items : List Json} (h : ItemsAt s items rest) :
      ValueAt (0x5B :: s) (.array items true) rest
  | emptyObject {s rest : List UInt8} (h : Blanks s (0x7D :: rest)) :
      ValueAt (0x7B :: s) (record []) rest
  | object {s rest : List UInt8} {members : List (String × Json)}
      (h : MembersAt s members rest) : ValueAt (0x7B :: s) (record members) rest

/-- One or more items and the closing bracket of an array. -/
inductive ItemsAt : List UInt8 → List Json → List UInt8 → Prop
  | last {s t rest : List UInt8} {item : Json} (hitem : ValueAt s item t)
      (hclose : Blanks t (0x5D :: rest)) : ItemsAt s [item] rest
  | next {s t u rest : List UInt8} {item : Json} {items : List Json} (hitem : ValueAt s item t)
      (hcomma : Blanks t (0x2C :: u)) (h : ItemsAt u items rest) :
      ItemsAt s (item :: items) rest

/-- One or more members and the closing brace of an object. -/
inductive MembersAt : List UInt8 → List (String × Json) → List UInt8 → Prop
  | last {s t u rest : List UInt8} {name : List Char} {value : Json} (hname : NameAt s name t)
      (hvalue : ValueAt t value u) (hclose : Blanks u (0x7D :: rest)) :
      MembersAt s [(String.ofList name, value)] rest
  | next {s t u v rest : List UInt8} {name : List Char} {value : Json}
      {members : List (String × Json)} (hname : NameAt s name t) (hvalue : ValueAt t value u)
      (hcomma : Blanks u (0x2C :: v)) (h : MembersAt v members rest) :
      MembersAt s ((String.ofList name, value) :: members) rest

end

/-- A whole text spells a value: the value, and blanks around it. -/
def Spells (s : List UInt8) (value : Json) : Prop := ∃ rest, ValueAt s value rest ∧ Blanks rest []

end ImageRetention.Json
