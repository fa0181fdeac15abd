import ImageRetention.Instant
import ImageRetention.Text.Blank
import ImageRetention.Text.Digits

/-
Reading instants, in a lenient form of RFC 3339:

* a date `year-month-day` and a time `hour:minute:second` with an optional fraction, put
  together by a `T` or a space;
* an offset from UTC: `Z`, `UTC`, or a sign with hours and minutes;
* blanks before every part and separator, numbers shorter than their columns, and a year with
  a sign and any number of digits are accepted too.
-/

namespace ImageRetention.Instant

open Text (trimStart takeDigits? takeAllDigits?)

/-- A reader of the start of a text: what it says, and the text after it. -/
abbrev Reader (α : Type) := List Char → Option (α × List Char)

/-! ### Parts -/

/-- One given character, after blanks. -/
def literal (c : Char) : Reader Unit := fun s =>
  match trimStart s with
  | d :: rest => if d = c then some ((), rest) else none
  | [] => none

/-- A number of one or two digits in a range, after blanks. -/
def column (least most : Nat) : Reader Nat := fun s => do
  let (n, rest) ← takeDigits? 2 (trimStart s)
  if least ≤ n ∧ n ≤ most then some (n, rest) else none

/-- A year: at most four digits, or a sign and any number of digits. -/
def year : Reader Int := fun s =>
  match trimStart s with
  | '-' :: rest => (takeAllDigits? rest).map fun part => (-(part.1 : Int), part.2)
  | '+' :: rest => (takeAllDigits? rest).map fun part => ((part.1 : Int), part.2)
  | rest => (takeDigits? 4 rest).map fun part => ((part.1 : Int), part.2)

/-- A fraction of a second in nanoseconds, if there is one.  Digits after the ninth are
dropped. -/
def fraction : Reader Nat := fun s =>
  match s with
  | '.' :: rest => do
    let (n, after) ← takeDigits? 9 rest
    let count := rest.length - after.length
    some (n * Nat.pow 10 (9 - count), after.dropWhile Char.isDigit)
  | _ => some (0, s)

/-- A date that exists. -/
def date : Reader Calendar.Date := fun s => do
  let (y, s) ← year s
  let (_, s) ← literal '-' s
  let (m, s) ← column 1 12 s
  let (_, s) ← literal '-' s
  let (d, s) ← column 1 31 s
  let date : Calendar.Date := ⟨y, m, d⟩
  if date.exists then some (date, s) else none

/-- A time of day: the second of the day and the nanoseconds.  Second 60 is the leap second
after second 59. -/
def time : Reader (Nat × Nat) := fun s => do
  let (hour, s) ← column 0 23 s
  let (_, s) ← literal ':' s
  let (minute, s) ← column 0 59 s
  let (_, s) ← literal ':' s
  let (second, s) ← column 0 60 s
  let (nano, s) ← fraction s
  let start := (hour * 60 + minute) * 60
  if second = 60 then some ((start + 59, nanosPerSecond + nano), s)
  else some ((start + second, nano), s)

/-- Two digits, the first of them at most `most`, as a number. -/
def twoDigits (most : Char) : Reader Nat := fun s =>
  match s with
  | c :: d :: rest =>
    if c.isDigit ∧ c ≤ most ∧ d.isDigit then some (Text.valueOf [c, d], rest) else none
  | _ => none

/-- Hours and minutes of an offset in seconds, with colons or blanks between them. -/
def offsetColumns : Reader Nat := fun s => do
  let (hours, s) ← twoDigits '9' s
  let (minutes, s) ← twoDigits '5' (s.dropWhile fun c => c == ':' || Text.isBlank c)
  some ((hours * 60 + minutes) * 60, s)

/-- An offset from UTC in seconds, less than a day either way. -/
def offset : Reader Int := fun s =>
  match s with
  | 'Z' :: rest => some (0, rest)
  | 'z' :: rest => some (0, rest)
  | sign :: rest =>
    if (s.take 3).map Char.toLower = ['u', 't', 'c'] then some (0, s.drop 3)
    else if sign = '+' ∨ sign = '-' ∨ sign = '−' then do
      let (seconds, after) ← offsetColumns rest
      if seconds < secondsPerDay then
        some (if sign = '+' then (seconds : Int) else -(seconds : Int), after)
      else none
    else none
  | [] => none

/-! ### Instants -/

/-- The instant whose local date and time, so many seconds ahead of UTC, are given.  Both the
local day and the day in UTC must be days that an instant can have. -/
def ofLocal? (date : Calendar.Date) (second nano : Nat) (ahead : Int) : Option Instant := do
  let here ← ofParts? date.toDays second nano
  let utc := (here.second : Int) - ahead
  ofParts? (here.day + utc / secondsPerDay) (utc % secondsPerDay).toNat here.nano

/-- The instant that a text names, if it is one in the lenient form. -/
def ofText? (text : String) : Option Instant := do
  let (date, s) ← date text.toList
  let separator ← s.head?
  if separator = 't' ∨ separator = 'T' ∨ separator = ' ' then
    let ((second, nano), s) ← time s.tail
    let (ahead, s) ← offset (trimStart s)
    if trimStart s = [] then ofLocal? date second nano ahead else none
  else none

end ImageRetention.Instant
