import ImageRetention.Text.Quoted
import ImageRetention.Text.Split

/-
Writing JSON without blanks:

* `Json.quoteChar`: how a character stands between the quotes of a string: as it is, unless it
  is a quote, a backslash or a control character;
* `Json.quote`: a string;
* `Json.arrayText`, `Json.objectText`: arrays and objects of values that are written already.
-/

namespace ImageRetention.Json

/-- The four hexadecimal digits of a code point below 2¹⁶. -/
def fourDigits (n : Nat) : List Char :=
  let digits := Text.hexDigits n
  List.replicate (4 - digits.length) '0' ++ digits

/-- How a character stands between the quotes of a string. -/
def quoteChar (c : Char) : List Char :=
  match c with
  | '"' => ['\\', '"']
  | '\\' => ['\\', '\\']
  | '\n' => ['\\', 'n']
  | '\r' => ['\\', 'r']
  | '\t' => ['\\', 't']
  | '\x08' => ['\\', 'b']
  | '\x0c' => ['\\', 'f']
  | _ => if c.toNat < 0x20 then '\\' :: 'u' :: fourDigits c.toNat else [c]

/-- A string. -/
def quote (text : String) : List Char :=
  '"' :: text.toList.flatMap quoteChar ++ ['"']

/-- An array of items that are written already. -/
def arrayText (items : List (List Char)) : List Char :=
  '[' :: Text.join ',' items ++ [']']

/-- A member of an object. -/
def memberText (name : String) (value : List Char) : List Char :=
  quote name ++ ':' :: value

/-- An object of members whose values are written already. -/
def objectText (members : List (String × List Char)) : List Char :=
  '\x7b' :: Text.join ',' (members.map fun member => memberText member.1 member.2) ++ ['\x7d']

end ImageRetention.Json
