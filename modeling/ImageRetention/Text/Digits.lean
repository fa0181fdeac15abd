/-
Digits:

* `hexValue?`: the value of a hexadecimal digit;
* `valueOf`: the number that a list of digits stands for;
* `padded`: the digits of a number, with zeros in front up to a width;
* `takeDigits?`: the digits at the start of a text, at most so many, and the rest;
* `natural?`, `integer?`: the number that a whole text stands for, with an optional sign.
-/

namespace ImageRetention.Text

/-- The value of one decimal digit. -/
def digitValue (c : Char) : Nat :=
  c.toNat - '0'.toNat

/-- The value of a hexadecimal digit. -/
def hexValue? (c : Char) : Option Nat :=
  if c.isDigit then some (digitValue c)
  else if 'a' ≤ c && c ≤ 'f' then some (c.toNat - 'a'.toNat + 10)
  else if 'A' ≤ c && c ≤ 'F' then some (c.toNat - 'A'.toNat + 10)
  else none

/-- The number that a list of decimal digits stands for. -/
def valueOf (digits : List Char) : Nat :=
  digits.foldl (fun n c => 10 * n + digitValue c) 0

/-- The decimal digits of a number, with zeros in front up to a width. -/
def padded (width n : Nat) : List Char :=
  let digits := Nat.toDigits 10 n
  List.replicate (width - digits.length) '0' ++ digits

/-- The number at the start of a text, of one to `most` digits, and the text after it. -/
def takeDigits? (most : Nat) (s : List Char) : Option (Nat × List Char) :=
  let digits := (s.takeWhile Char.isDigit).take most
  if digits.isEmpty then none else some (valueOf digits, s.drop digits.length)

/-- The number at the start of a text with all its digits, and the text after it. -/
def takeAllDigits? (s : List Char) : Option (Nat × List Char) :=
  takeDigits? s.length s

/-- The number that a text of digits alone stands for. -/
def digitsOnly? (s : List Char) : Option Nat :=
  if s.isEmpty || !s.all Char.isDigit then none else some (valueOf s)

/-- The number that a text stands for, with an optional plus. -/
def natural? (s : List Char) : Option Nat :=
  match s with
  | '+' :: digits => digitsOnly? digits
  | digits => digitsOnly? digits

/-- The number that a text stands for, with an optional sign. -/
def integer? (s : List Char) : Option Int :=
  match s with
  | '-' :: digits => (digitsOnly? digits).map fun n => -(n : Int)
  | s => (natural? s).map Int.ofNat

end ImageRetention.Text
