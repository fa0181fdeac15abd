import ImageRetention.Json
import ImageRetention.Text.Utf8

/-
Reading JSON from bytes:

* `StringPart`: what stands between the quotes of a string, byte by byte, with the code units
  that `\u` escapes name;
* `textOf?`: the text of the parts, if code units pair up and the bytes are UTF-8;
* `Document.ofBytes`: the tree of a whole text, in which the first syntax fault is a leaf.
-/

namespace ImageRetention.Json

/-! ### Strings -/

/-- One item between the quotes of a string. -/
inductive StringPart
  /-- A byte as it stands, or one that a short escape names. -/
  | byte (value : UInt8)
  /-- A UTF-16 code unit named by its number. -/
  | unit (value : Nat)
  deriving DecidableEq, Repr

/-- The value of a hexadecimal digit. -/
def hexValue? (b : UInt8) : Option Nat :=
  if 0x30 ≤ b && b ≤ 0x39 then some (b.toNat - 0x30)
  else if 0x41 ≤ b && b ≤ 0x46 then some (b.toNat - 0x37)
  else if 0x61 ≤ b && b ≤ 0x66 then some (b.toNat - 0x57)
  else none

/-- The byte that a short escape names, by the letter after the backslash. -/
def shortEscape? (b : UInt8) : Option UInt8 :=
  if b = 0x22 || b = 0x5C || b = 0x2F then some b
  else if b = 0x62 then some 0x08
  else if b = 0x66 then some 0x0C
  else if b = 0x6E then some 0x0A
  else if b = 0x72 then some 0x0D
  else if b = 0x74 then some 0x09
  else none

/-- The parts of a string from after its opening quote, and the bytes after its closing one;
none if a control character or a malformed escape comes first, or no quote comes at all. -/
def stringParts : List UInt8 → Option (List StringPart × List UInt8)
  | [] => none
  | 0x22 :: rest => some ([], rest)
  | 0x5C :: 0x75 :: a :: b :: c :: d :: rest => do
    let unit := ((((← hexValue? a) * 16) + (← hexValue? b)) * 16 + (← hexValue? c)) * 16
      + (← hexValue? d)
    let (parts, after) ← stringParts rest
    some (.unit unit :: parts, after)
  | 0x5C :: e :: rest => do
    let byte ← shortEscape? e
    let (parts, after) ← stringParts rest
    some (.byte byte :: parts, after)
  | b :: rest =>
    if b < 0x20 || b = 0x5C then none
    else (stringParts rest).map fun tail => (.byte b :: tail.1, tail.2)

/-- Whether a code unit is the first of a pair. -/
def isLeading (unit : Nat) : Bool := 0xD800 ≤ unit && unit ≤ 0xDBFF

/-- Whether a code unit is the second of a pair. -/
def isTrailing (unit : Nat) : Bool := 0xDC00 ≤ unit && unit ≤ 0xDFFF

/-- The character that a pair of code units stands for. -/
def pairChar (leading trailing : Nat) : Char :=
  Char.ofNat (0x10000 + (leading - 0xD800) * 0x400 + (trailing - 0xDC00))

/-- The bytes of the parts of a string, if its code units pair up. -/
def bytesOf? : List StringPart → Option (List UInt8)
  | [] => some []
  | .byte b :: rest => (bytesOf? rest).map (b :: ·)
  | .unit u :: rest =>
    if isTrailing u then none
    else if isLeading u then
      match rest with
      | .unit v :: rest =>
        if isTrailing v then
          (bytesOf? rest).map (String.utf8EncodeChar (pairChar u v) ++ ·)
        else none
      | _ => none
    else (bytesOf? rest).map (String.utf8EncodeChar (Char.ofNat u) ++ ·)

/-- The text of the parts of a string, if it is Unicode text. -/
def textOf? (parts : List StringPart) : Option String := do
  let bytes ← bytesOf? parts
  (Text.Utf8.decode? bytes).map String.ofList

/-! ### Numbers -/

/-- Whether a byte is a decimal digit. -/
def isDigit (b : UInt8) : Bool := 0x30 ≤ b && b ≤ 0x39

/-- The decimal digits at the start of some bytes, and the bytes after them. -/
def digits (s : List UInt8) : List Char × List UInt8 :=
  ((s.takeWhile isDigit).map fun b => Char.ofNat b.toNat, s.dropWhile isDigit)

/-- The digits before the point: a zero alone, or digits that do not start with one. -/
def wholeDigits? (s : List UInt8) : Option (List Char × List UInt8) :=
  match digits s with
  | ([], _) => none
  | ('0' :: _ :: _, _) => none
  | read => some read

/-- The digits after a point, none if there is no point. -/
def fractionDigits? (s : List UInt8) : Option (List Char × List UInt8) :=
  match s with
  | 0x2E :: rest =>
    match digits rest with
    | ([], _) => none
    | read => some read
  | _ => some ([], s)

/-- The digits of an exponent, from after its sign. -/
def exponentDigits? (negative : Bool) (s : List UInt8) :
    Option (Option (Bool × List Char) × List UInt8) :=
  match digits s with
  | ([], _) => none
  | (read, rest) => some (some (negative, read), rest)

/-- An exponent with its letter and an optional sign, none if there is no letter. -/
def exponentPart? (s : List UInt8) : Option (Option (Bool × List Char) × List UInt8) :=
  match s with
  | b :: rest =>
    if b = 0x65 || b = 0x45 then
      match rest with
      | 0x2B :: rest => exponentDigits? false rest
      | 0x2D :: rest => exponentDigits? true rest
      | rest => exponentDigits? false rest
    else some (none, s)
  | [] => some (none, s)

/-- The number at the start of some bytes, from after its sign. -/
def numberText? (negative : Bool) (s : List UInt8) : Option (NumberText × List UInt8) := do
  let (whole, s) ← wholeDigits? s
  let (fraction, s) ← fractionDigits? s
  let (exponent, s) ← exponentPart? s
  some (⟨negative, whole, fraction, exponent⟩, s)

/-! ### Values -/

/-- The bytes after the blanks at the start. -/
def skipBlanks (s : List UInt8) : List UInt8 :=
  s.dropWhile fun b => b = 0x20 || b = 0x09 || b = 0x0A || b = 0x0D

/-- The bytes after a given word. -/
def afterWord? : List UInt8 → List UInt8 → Option (List UInt8)
  | [], s => some s
  | w :: word, b :: s => if w = b then afterWord? word s else none
  | _ :: _, [] => none

/-- A value read from after its first letter, if the rest of its word follows. -/
def wordValue (value : Json) (word s : List UInt8) : Json × Option (List UInt8) :=
  match afterWord? word s with
  | some rest => (value, some rest)
  | none => (.fault, none)

/-- A number, or a fault. -/
def numberValue (negative : Bool) (s : List UInt8) : Json × Option (List UInt8) :=
  match numberText? negative s with
  | some (text, rest) => (.number text, some rest)
  | none => (.fault, none)

mutual

/-- The value at the start of some bytes, and the bytes after it unless reading broke off in
it.  Every step but one into a first item takes a byte, so twice as many steps as bytes are
enough. -/
def readValue : Nat → List UInt8 → Json × Option (List UInt8)
  | 0, _ => (.fault, none)
  | fuel + 1, s =>
    match skipBlanks s with
    | 0x22 :: rest =>
      match stringParts rest with
      | some (parts, rest) => (.string (textOf? parts), some rest)
      | none => (.fault, none)
    | 0x5B :: rest =>
      match skipBlanks rest with
      | 0x5D :: rest => (.array [] true, some rest)
      | rest =>
        let (read, after) := readItems fuel rest
        (.array read after.isSome, after)
    | 0x7B :: rest =>
      match skipBlanks rest with
      | 0x7D :: rest => (.object [] true, some rest)
      | rest =>
        let (read, after) := readMembers fuel rest
        (.object read after.isSome, after)
    | 0x6E :: rest => wordValue .null [0x75, 0x6C, 0x6C] rest
    | 0x74 :: rest => wordValue (.bool true) [0x72, 0x75, 0x65] rest
    | 0x66 :: rest => wordValue (.bool false) [0x61, 0x6C, 0x73, 0x65] rest
    | 0x2D :: rest => numberValue true rest
    | s => numberValue false s

/-- One or more items and the closing bracket of an array. -/
def readItems : Nat → List UInt8 → List Json × Option (List UInt8)
  | 0, _ => ([], none)
  | fuel + 1, s =>
    match readValue fuel s with
    | (item, none) => ([item], none)
    | (item, some rest) =>
      match skipBlanks rest with
      | 0x5D :: rest => ([item], some rest)
      | 0x2C :: rest =>
        let (more, after) := readItems fuel rest
        (item :: more, after)
      | _ => ([item], none)

/-- One or more members and the closing brace of an object. -/
def readMembers : Nat → List UInt8 → List (Option String × Json) × Option (List UInt8)
  | 0, _ => ([], none)
  | fuel + 1, s =>
    match skipBlanks s with
    | 0x22 :: rest =>
      match stringParts rest with
      | none => ([], none)
      | some (parts, rest) =>
        let name := textOf? parts
        match skipBlanks rest with
        | 0x3A :: rest =>
          match readValue fuel rest with
          | (item, none) => ([(name, item)], none)
          | (item, some rest) =>
            match skipBlanks rest with
            | 0x7D :: rest => ([(name, item)], some rest)
            | 0x2C :: rest =>
              let (more, after) := readMembers fuel rest
              ((name, item) :: more, after)
            | _ => ([(name, item)], none)
        | _ => ([(name, .fault)], none)
    | _ => ([], none)

end

/-- The tree of a whole text. -/
def Document.ofBytes (s : List UInt8) : Document :=
  match readValue (2 * s.length + 2) s with
  | (value, none) => ⟨value, false⟩
  | (value, some rest) => ⟨value, (skipBlanks rest).isEmpty⟩

end ImageRetention.Json
