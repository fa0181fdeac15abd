import ImageRetention.Instant
import ImageRetention.Text.Split
import ImageRetention.Toml
import ImageRetention.Toml.Text

/-
Numbers, truth values and dates of a TOML document.

* `Toml.underscoresFit`, `Toml.isReal`: where underscores may stand in a number, and which
  words are floating-point numbers;
* `Toml.isDateTime`: whether a word is a date, a time, or both;
* `Toml.word`: the word at the start of a text;
* `Toml.scalar`: what it stands for.

A word of the outward form of an integer is taken for one even where a letter or another
character has slipped in behind an underscore, or where there are no digits behind a base.
Such a word is no error of the document: it has no value, which is found out when its value
is asked for.
-/

namespace ImageRetention.Toml

open Text (hexValue? split)

/-! ### Numbers -/

/-- A word without its sign, and whether the sign is a minus. -/
def unsigned (s : List Char) : Bool × List Char :=
  match s with
  | '-' :: rest => (true, rest)
  | '+' :: rest => (false, rest)
  | rest => (false, rest)

/-- A word without its underscores. -/
def withoutUnderscores (s : List Char) : List Char :=
  s.filter (· != '_')

/-- Whether underscores stand where they may: the pieces between them are not empty, a piece
behind an underscore starts with a digit, and one of several characters before an underscore
ends with a digit. -/
def underscoresFit (isDigit : Char → Bool) (s : List Char) : Bool :=
  match split (· == '_') s with
  | [] => true
  | [_] => true
  | pieces =>
    pieces.all (fun piece => !piece.isEmpty)
      && pieces.tail.all (fun piece => piece.head?.any isDigit)
      && pieces.dropLast.all fun piece => piece.length ≤ 1 || piece.getLast?.any isDigit

/-- Whether a character is a digit to the base sixteen. -/
def isHexDigit (c : Char) : Bool :=
  (hexValue? c).isSome

/-- The number that digits to some base stand for. -/
def valueTo (base : Nat) (digits : List Char) : Nat :=
  digits.foldl (fun n c => base * n + (hexValue? c).getD 0) 0

/-- An integer to a base below sixteen, from after the letter of the base. -/
def based? (base : Nat) (s : List Char) : Option Toml :=
  let digits := withoutUnderscores s
  let isDigit c := match hexValue? c with
    | some value => decide (value < base)
    | none => false
  if digits.all isDigit && underscoresFit isHexDigit s then
    some (if digits.isEmpty then .illegible else .integer (valueTo base digits))
  else none

/-- An integer in decimal, with underscores that fit. -/
def decimal (s : List Char) : Toml :=
  let (negative, rest) := unsigned s
  let digits := withoutUnderscores rest
  if digits.isEmpty || !digits.all Char.isDigit then .illegible
  else
    let value : Int := Text.valueOf digits
    .integer (if negative then -value else value)

/-- What follows a run of digits and underscores with a digit in it, if there is one at the
start of a text.  If the run may not be padded, several digits in it do not follow a zero. -/
def afterDigits? (padded : Bool) (s : List Char) : Option (List Char) :=
  let (run, rest) := s.span fun c => c.isDigit || c == '_'
  let count := run.countP Char.isDigit
  if count = 0 || (!padded && 1 < count && run.head? == some '0') then none else some rest

/-- Whether a text is a floating-point number without a sign, apart from where its
underscores stand. -/
def isReal (s : List Char) : Bool :=
  let rest? := do
    let rest ← afterDigits? false s
    let rest ← match rest with
      | '.' :: rest => afterDigits? true rest
      | rest => some rest
    match rest with
    | 'e' :: rest => afterDigits? true (unsigned rest).2
    | 'E' :: rest => afterDigits? true (unsigned rest).2
    | rest => some rest
  rest? == some []

/-- The floating-point number that a text without a sign stands for. -/
def magnitude (negative : Bool) (s : List Char) : Real :=
  let (mantissa, exponent) := (withoutUnderscores s).span fun c => c != 'e' && c != 'E'
  let (whole, fraction) := mantissa.span (· != '.')
  let fraction := fraction.drop 1
  let (down, digits) := unsigned (exponent.drop 1)
  let power : Int := Text.valueOf digits
  .finite negative (Text.valueOf (whole ++ fraction))
    ((if down then -power else power) - fraction.length)

/-! ### Dates and times -/

/-- A number of exactly so many digits, at most of some size. -/
def column (count least most : Nat) : Reader Nat := fun s =>
  let digits := s.take count
  let n := Text.valueOf digits
  if digits.length = count ∧ digits.all Char.isDigit ∧ least ≤ n ∧ n ≤ most then
    some (n, s.drop count)
  else none

/-- One given character. -/
def mark (c : Char) : Reader Unit
  | d :: rest => if d = c then some ((), rest) else none
  | [] => none

/-- A date that exists. -/
def date : Reader Unit := fun s => do
  let (year, s) ← column 4 0 9999 s
  let (_, s) ← mark '-' s
  let (month, s) ← column 2 1 12 s
  let (_, s) ← mark '-' s
  let (day, s) ← column 2 1 31 s
  if (Calendar.Date.mk year month day).exists then some ((), s) else none

/-- A fraction of a second, if there is one. -/
def fraction : Reader Unit
  | '.' :: rest =>
    if (rest.takeWhile Char.isDigit).isEmpty then none
    else some ((), rest.dropWhile Char.isDigit)
  | s => some ((), s)

/-- A time of day.  The seconds can be left out. -/
def time : Reader Unit := fun s => do
  let (_, s) ← column 2 0 23 s
  let (_, s) ← mark ':' s
  let (_, s) ← column 2 0 59 s
  match s with
  | ':' :: s => do
    let (_, s) ← column 2 0 60 s
    fraction s
  | s => some ((), s)

/-- Whether a text is an offset from UTC, or empty. -/
def isOffset (s : List Char) : Bool :=
  match s with
  | [] => true
  | ['Z'] => true
  | ['z'] => true
  | c :: rest =>
    (c == '+' || c == '-') && (do
      let (_, s) ← column 2 0 23 rest
      let (_, s) ← mark ':' s
      let (_, s) ← column 2 0 59 s
      some s) == some []

/-- Whether a text is the time after a date, with an optional offset. -/
def isTimeWithOffset (s : List Char) : Bool :=
  match time s with
  | some (_, rest) => isOffset rest
  | none => false

/-- Whether a word is a date, a time, or a date and a time with an optional offset. -/
def isDateTime (s : List Char) : Bool :=
  match date s with
  | some (_, []) => true
  | some (_, c :: rest) => (c == 'T' || c == 't' || c == ' ') && isTimeWithOffset rest
  | none => (time s).any fun read => read.2.isEmpty

/-! ### Words -/

/-- Whether a character can stand in a word: none that has a meaning of its own between words.
A dot can, too. -/
def isWordChar (c : Char) : Bool :=
  !(c == '=' || c == ',' || c == '[' || c == ']' || c == '\x7b' || c == '\x7d' || c == '#'
    || c == '\n' || c == '\r' || isSpace c)

/-- Whether a character can start a word or a part of it after blanks or a dot. -/
def isWordStart (c : Char) : Bool :=
  isWordChar c && c != '.' && c != '"' && c != '\''

/-- The word at the start of a text.  Blanks belong to it if more of it comes behind them.
The flag says that quotes do: they cannot start a part of a word, but stand in it. -/
def word : Bool → List Char → List Char × List Char
  | _, [] => ([], [])
  | inside, c :: rest =>
    let goesOn :=
      if isSpace c then (skipBlanks rest).head?.any isWordStart
      else c == '.' || isWordStart c || (inside && isWordChar c)
    if goesOn then
      let (more, rest) := word (c != '.' && !isSpace c) rest
      (c :: more, rest)
    else ([], c :: rest)

/-- What a word stands for that starts with a digit or an underscore behind its sign.  The
word is given whole and without its sign. -/
def ofDigits? (s : List Char) (negative : Bool) (rest : List Char) : Option Toml :=
  let behind := rest.dropWhile Char.isDigit
  let start := behind.head?
  if start == some '-' || start == some ':' then
    if isDateTime s then some .dateTime else none
  else if behind.contains ' ' then none
  else if behind.any fun c => c == '.' || c == 'e' || c == 'E' then
    if isReal rest && underscoresFit Char.isDigit s then some (.real (magnitude negative rest))
    else none
  else if start == none || start == some '_' then
    if rest.head? == some '0' && 1 < rest.length then none
    else if underscoresFit isHexDigit s then some (decimal s)
    else none
  else none

/-- What a word stands for. -/
def ofWord? (s : List Char) : Option Toml :=
  match s with
  | ['t', 'r', 'u', 'e'] => some (.boolean true)
  | ['f', 'a', 'l', 's', 'e'] => some (.boolean false)
  | '0' :: 'x' :: rest => based? 16 rest
  | '0' :: 'o' :: rest => based? 8 rest
  | '0' :: 'b' :: rest => based? 2 rest
  | s =>
    let (negative, rest) := unsigned s
    match rest with
    | ['i', 'n', 'f'] => some (.real (.infinite negative))
    | ['n', 'a', 'n'] => some (.real .undefined)
    | c :: _ => if c.isDigit || c == '_' then ofDigits? s negative rest else none
    | [] => none

/-- A value without parts. -/
def scalar : Reader Toml := fun s =>
  match s with
  | '"' :: _ => (quotedText s).map fun read => (.string read.1, read.2)
  | '\'' :: _ => (quotedText s).map fun read => (.string read.1, read.2)
  | s =>
    let (read, rest) := word false s
    (ofWord? read).map fun value => (value, rest)

end ImageRetention.Toml
