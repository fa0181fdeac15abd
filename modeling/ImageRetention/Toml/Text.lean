import ImageRetention.Text.Digits

/-
The texts of a TOML document: quoted texts, comments and the blanks between things.

* `Toml.Reader`: a reader of the start of a text;
* `Toml.skipBlanks`, `Toml.skipVoid`: what may stand between things, on one line or many;
* `Toml.quotedText`: a quoted text in any of the four forms.
-/

namespace ImageRetention.Toml

/-- A reader of the start of a text: what it says, and the text after it. -/
abbrev Reader (α : Type) := List Char → Option (α × List Char)

/-! ### Blanks and comments -/

/-- Whether a character can stand in a comment or a quoted text: a tab, or no control. -/
def isTextChar (c : Char) : Bool :=
  c == '\t' || (0x20 ≤ c.toNat && c.toNat != 0x7F)

/-- Whether a character separates things on one line. -/
def isSpace (c : Char) : Bool :=
  c == ' ' || c == '\t'

/-- A text without the spaces and tabs at its start. -/
def skipBlanks (s : List Char) : List Char :=
  s.dropWhile isSpace

/-- A text without the blanks, line ends and comments at its start; none if a comment holds a
control character.  The flag says that the text starts inside a comment. -/
def skipVoid : Bool → List Char → Option (List Char)
  | _, [] => some []
  | _, '\n' :: rest => skipVoid false rest
  | _, '\r' :: '\n' :: rest => skipVoid false rest
  | false, '#' :: rest => skipVoid true rest
  | false, c :: rest => if isSpace c then skipVoid false rest else some (c :: rest)
  | true, c :: rest => if isTextChar c then skipVoid true rest else none

/-- A text without the blanks, the comment and the line end at its start; none if anything
else comes before the line ends. -/
def skipLineEnd (s : List Char) : Option (List Char) :=
  match skipBlanks s with
  | [] => some []
  | '\n' :: rest => some rest
  | '\r' :: '\n' :: rest => some rest
  | '#' :: rest => skipVoid true rest
  | _ => none

/-! ### Escapes -/

/-- The character named by so many hexadecimal digits. -/
def namedChar (count : Nat) : Reader Char := fun s => do
  let digits := s.take count
  if digits.length < count then none
  else do
    let values ← digits.mapM Text.hexValue?
    let code := values.foldl (fun n value => 16 * n + value) 0
    if code.isValidChar then some (Char.ofNat code, s.drop count) else none

/-- The character that an escape stands for, from after its backslash. -/
def escape : Reader Char
  | 'b' :: rest => some ('\x08', rest)
  | 't' :: rest => some ('\t', rest)
  | 'n' :: rest => some ('\n', rest)
  | 'f' :: rest => some ('\x0c', rest)
  | 'r' :: rest => some ('\r', rest)
  | 'e' :: rest => some ('\x1b', rest)
  | '"' :: rest => some ('"', rest)
  | '\\' :: rest => some ('\\', rest)
  | 'x' :: rest => namedChar 2 rest
  | 'u' :: rest => namedChar 4 rest
  | 'U' :: rest => namedChar 8 rest
  | _ => none

/-! ### Quoted texts

Each reader starts after the opening quotes, and takes at least one character a step, so that
as many steps as there are characters are enough. -/

/-- A text between double quotes. -/
def basic : Nat → Reader (List Char)
  | 0, _ => none
  | fuel + 1, s =>
    match s with
    | '"' :: rest => some ([], rest)
    | '\\' :: rest => do
      let (c, rest) ← escape rest
      let (more, rest) ← basic fuel rest
      some (c :: more, rest)
    | c :: rest =>
      if isTextChar c then (basic fuel rest).map fun read => (c :: read.1, read.2) else none
    | [] => none

/-- A text between apostrophes, in which nothing is escaped. -/
def literal : Reader (List Char)
  | '\'' :: rest => some ([], rest)
  | c :: rest =>
    if isTextChar c then (literal rest).map fun read => (c :: read.1, read.2) else none
  | [] => none

/-- The text after a line end, if a text starts with one. -/
def afterNewline? : List Char → Option (List Char)
  | '\n' :: rest => some rest
  | '\r' :: '\n' :: rest => some rest
  | _ => none

/-- A text without the blanks and line ends at its start. -/
def skipLines : List Char → List Char
  | [] => []
  | '\r' :: '\n' :: rest => skipLines rest
  | c :: rest => if isSpace c || c == '\n' then skipLines rest else c :: rest

/-- What three quotes end: up to two more of them still belong to the text. -/
def closing (quote : Char) (s : List Char) : List Char × List Char :=
  let extra := (s.take 2).takeWhile (· == quote)
  (extra, s.drop extra.length)

/-- A text of many lines between three double quotes.  A backslash at the end of a line joins
the next text that is not blank. -/
def basicLines : Nat → Reader (List Char)
  | 0, _ => none
  | fuel + 1, s =>
    match s with
    | '"' :: '"' :: '"' :: rest => some (closing '"' rest)
    | '\\' :: rest =>
      match afterNewline? (skipBlanks rest) with
      | some rest => basicLines fuel (skipLines rest)
      | none => do
        let (c, rest) ← escape rest
        let (more, rest) ← basicLines fuel rest
        some (c :: more, rest)
    | '\r' :: '\n' :: rest =>
      (basicLines fuel rest).map fun read => ('\r' :: '\n' :: read.1, read.2)
    | c :: rest =>
      if c == '\n' || isTextChar c then
        (basicLines fuel rest).map fun read => (c :: read.1, read.2)
      else none
    | [] => none

/-- A text of many lines between three apostrophes. -/
def literalLines : Reader (List Char)
  | '\'' :: '\'' :: '\'' :: rest => some (closing '\'' rest)
  | '\r' :: '\n' :: rest =>
    (literalLines rest).map fun read => ('\r' :: '\n' :: read.1, read.2)
  | c :: rest =>
    if c == '\n' || isTextChar c then
      (literalLines rest).map fun read => (c :: read.1, read.2)
    else none
  | [] => none

/-- A text without a line end at its very start. -/
def dropNewline (s : List Char) : List Char :=
  (afterNewline? s).getD s

/-- A text in quotes of either kind, on one line. -/
def lineText : Reader String := fun s =>
  match s with
  | '"' :: rest => (basic (rest.length + 1) rest).map fun read => (String.ofList read.1, read.2)
  | '\'' :: rest => (literal rest).map fun read => (String.ofList read.1, read.2)
  | _ => none

/-- A text in quotes, in any of the four forms. -/
def quotedText : Reader String := fun s =>
  match s with
  | '"' :: '"' :: '"' :: rest =>
    (basicLines (rest.length + 1) (dropNewline rest)).map fun read =>
      (String.ofList read.1, read.2)
  | '\'' :: '\'' :: '\'' :: rest =>
    (literalLines (dropNewline rest)).map fun read => (String.ofList read.1, read.2)
  | s => lineText s

end ImageRetention.Toml
