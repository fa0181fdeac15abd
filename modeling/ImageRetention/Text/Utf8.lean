/-
UTF-8 as a code on byte lists:

* `encode`: the bytes of a text;
* `units`: what a byte list says, unit by unit: a character, or `none` for a maximal run of
  bytes that begins a character and does not complete one (or begins none);
* `units_ascii`: an ASCII byte is a unit;
* `decode?`: the text, if every unit is a character;
* `decodeLossy`: the text with U+FFFD in place of each unit that is no character.
-/

namespace ImageRetention.Text.Utf8

/-! ### Well-formed sequences -/

/-- Whether a byte continues a character. -/
def isTrail (b : UInt8) : Bool :=
  0x80 ≤ b && b ≤ 0xBF

/-- How many bytes follow a first byte: `none` for a byte that begins no character. -/
def trailCount (b : UInt8) : Option Nat :=
  if b < 0x80 then some 0
  else if b < 0xC2 then none
  else if b < 0xE0 then some 1
  else if b < 0xF0 then some 2
  else if b < 0xF5 then some 3
  else none

/-- Whether a second byte may follow a first one.  Four first bytes narrow the range, which
rules out overlong forms, surrogates and values beyond U+10FFFF. -/
def isSecond (first b : UInt8) : Bool :=
  if first = 0xE0 then 0xA0 ≤ b && b ≤ 0xBF
  else if first = 0xED then 0x80 ≤ b && b ≤ 0x9F
  else if first = 0xF0 then 0x90 ≤ b && b ≤ 0xBF
  else if first = 0xF4 then 0x80 ≤ b && b ≤ 0x8F
  else isTrail b

/-- The six payload bits of a byte that continues a character. -/
def payload (b : UInt8) : Nat :=
  b.toNat % 64

/-- The character of a two-byte sequence. -/
def char2 (b0 b1 : UInt8) : Char :=
  Char.ofNat (b0.toNat % 32 * 64 + payload b1)

/-- The character of a three-byte sequence. -/
def char3 (b0 b1 b2 : UInt8) : Char :=
  Char.ofNat ((b0.toNat % 16 * 64 + payload b1) * 64 + payload b2)

/-- The character of a four-byte sequence. -/
def char4 (b0 b1 b2 b3 : UInt8) : Char :=
  Char.ofNat (((b0.toNat % 8 * 64 + payload b1) * 64 + payload b2) * 64 + payload b3)

/-! ### Decoding -/

/-- What a byte list says, unit by unit.  A unit that is no character is as long as the
sequence it begins stays well formed, and at least one byte. -/
def units : List UInt8 → List (Option Char)
  | [] => []
  | b0 :: rest0 =>
    match trailCount b0 with
    | none => none :: units rest0
    | some 0 => some (Char.ofNat b0.toNat) :: units rest0
    | some more =>
      match rest0 with
      | [] => [none]
      | b1 :: rest1 =>
        if isSecond b0 b1 then
          if more = 1 then some (char2 b0 b1) :: units rest1
          else match rest1 with
            | [] => [none]
            | b2 :: rest2 =>
              if isTrail b2 then
                if more = 2 then some (char3 b0 b1 b2) :: units rest2
                else match rest2 with
                  | [] => [none]
                  | b3 :: rest3 =>
                    if isTrail b3 then some (char4 b0 b1 b2 b3) :: units rest3
                    else none :: units (b3 :: rest3)
              else none :: units (b2 :: rest2)
        else none :: units (b1 :: rest1)

/-- An ASCII byte is a character of its own. -/
theorem units_ascii {b : UInt8} (hb : b < 0x80) (rest : List UInt8) :
    units (b :: rest) = some (Char.ofNat b.toNat) :: units rest := by
  rw [units.eq_2]
  simp [trailCount, hb]

/-- The character written for a unit that is none. -/
def replacement : Char := '\uFFFD'

/-- The text of a byte list, with U+FFFD for each maximal ill-formed part. -/
def decodeLossy (bytes : List UInt8) : List Char :=
  (units bytes).map fun unit => unit.getD replacement

/-- The text of a byte list that is well-formed UTF-8. -/
def decode? (bytes : List UInt8) : Option (List Char) :=
  (units bytes).mapM id

/-- The bytes of a text. -/
def encode (s : List Char) : List UInt8 :=
  s.flatMap String.utf8EncodeChar

/-- The lossy reading of a byte list as a string. -/
def textOf (bytes : List UInt8) : String :=
  String.ofList (decodeLossy bytes)

/-- The bytes of a string. -/
def bytesOf (s : String) : List UInt8 :=
  encode s.toList

/-- Where strict decoding succeeds, lossy decoding gives the same text. -/
theorem decodeLossy_of_decode? {bytes : List UInt8} {s : List Char}
    (h : decode? bytes = some s) : decodeLossy bytes = s := by
  have general (us : List (Option Char)) : ∀ {s}, us.mapM id = some s →
      us.map (fun unit => unit.getD replacement) = s := by
    induction us with
    | nil => simp
    | cons unit us ih =>
      intro s hs
      cases unit with
      | none => simp at hs
      | some c =>
        simp only [List.mapM_cons, id_eq, Option.pure_def, Option.bind_eq_bind,
          Option.bind_some, Option.bind_eq_some_iff, Option.some.injEq] at hs
        obtain ⟨rest, hrest, rfl⟩ := hs
        simp [ih hrest]
  exact general (units bytes) h

end ImageRetention.Text.Utf8
