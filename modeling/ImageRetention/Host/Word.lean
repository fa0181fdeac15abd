/-
Bytes as words without blanks:

* `Host.word`: two hexadecimal digits for each byte, and a hyphen for no bytes at all;
* `Host.bytes?`: the bytes that a word stands for;
* `bytes?_word`: the word of some bytes stands for them.
-/

namespace ImageRetention.Host

/-- The two hexadecimal digits of a byte. -/
def byteDigits (b : UInt8) : List Char :=
  [Nat.digitChar (b.toNat / 16), Nat.digitChar (b.toNat % 16)]

/-- Bytes as a word. -/
def word (bytes : List UInt8) : List Char :=
  if bytes.isEmpty then ['-'] else bytes.flatMap byteDigits

/-- The value of a lower-case hexadecimal digit. -/
def digitValue? (c : Char) : Option Nat :=
  if c.isDigit then some (c.toNat - '0'.toNat)
  else if 'a' ≤ c && c ≤ 'f' then some (c.toNat - 'a'.toNat + 10)
  else none

/-- The bytes that pairs of digits stand for. -/
def pairs? : List Char → Option (List UInt8)
  | [] => some []
  | a :: b :: rest => do
    let byte := UInt8.ofNat ((← digitValue? a) * 16 + (← digitValue? b))
    let bytes ← pairs? rest
    some (byte :: bytes)
  | [_] => none

/-- The bytes that a word stands for. -/
def bytes? (word : List Char) : Option (List UInt8) :=
  if word = ['-'] then some [] else pairs? word

theorem digitValue?_digitChar {n : Nat} (h : n < 16) :
    digitValue? (Nat.digitChar n) = some n := by
  have general : ∀ n : Fin 16, digitValue? (Nat.digitChar n) = some n.val := by decide
  exact general ⟨n, h⟩

theorem pairs?_flatMap (bytes : List UInt8) :
    pairs? (bytes.flatMap byteDigits) = some bytes := by
  induction bytes with
  | nil => rfl
  | cons b rest ih =>
    have high : b.toNat / 16 < 16 := by have := b.toNat_lt; omega
    have low : b.toNat % 16 < 16 := by omega
    have whole : b.toNat / 16 * 16 + b.toNat % 16 = b.toNat := by omega
    simp only [List.flatMap_cons, byteDigits, List.cons_append, List.nil_append, pairs?, ih,
      digitValue?_digitChar high, digitValue?_digitChar low, Option.bind_eq_bind,
      Option.bind_some, whole, UInt8.ofNat_toNat]

/-- The word of some bytes stands for them. -/
theorem bytes?_word (bytes : List UInt8) : bytes? (word bytes) = some bytes := by
  cases bytes with
  | nil => rfl
  | cons b rest =>
    have h : (b :: rest).flatMap byteDigits ≠ ['-'] := by
      simp [byteDigits]
    rw [word, if_neg (by simp), bytes?, if_neg h, pairs?_flatMap]

end ImageRetention.Host
