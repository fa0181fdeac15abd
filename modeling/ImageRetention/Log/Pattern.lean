import ImageRetention.Text.Blank
import ImageRetention.Text.CodePoint
import ImageRetention.Text.Digits

/-
Patterns that a log filter can hold the value of a field against.

* `Pattern.escape?`: what stands behind a backslash;
* `Pattern.set?`: a set of characters between square brackets;
* `Pattern.isWellFormed`: whether a text is a pattern.

Patterns are regular expressions with groups, sets, alternatives, and repetitions by `?`, `*`
and `+`.  They contain no braces, since a closing brace ends the field; so a counted repetition
is never complete.  They are run by a machine that reads a text byte by byte without looking
back, which rules out references to groups, lookarounds and the word boundaries of other
scripts.  What entries hold is not looked at here: whether the text is a pattern decides whether
the filter is taken at all.
-/

namespace ImageRetention.Log.Pattern

open Text (hexValue? isAlphanumeric isBlank)

/-! ### Modes -/

/-- How a part of a pattern is read. -/
structure Mode where
  /-- Blanks, and comments up to the end of a line, mean nothing. -/
  spaced : Bool
  /-- Elements stand for characters; otherwise they stand for bytes, and only for those that
  are a character each. -/
  unicode : Bool
  deriving DecidableEq, Repr

/-- A text without the blanks and comments at its start.  The flag says that the text starts
inside a comment. -/
def skipSpace : Bool → List Char → List Char
  | _, [] => []
  | true, c :: rest => skipSpace (c != '\n') rest
  | false, '#' :: rest => skipSpace true rest
  | false, c :: rest => if isBlank c then skipSpace false rest else c :: rest

/-- A text without what means nothing at its start. -/
def Mode.skip (mode : Mode) (s : List Char) : List Char :=
  if mode.spaced then skipSpace false s else s

/-- The letters that switch something on, or off behind a hyphen. -/
def flags : List Char := ['i', 'm', 's', 'U', 'u', 'R', 'x']

/-- The flags at the start of a text, and the text from the colon or parenthesis after them.
None of them comes twice, and a hyphen is not the last. -/
def flags? (read : List Char) : List Char → Option (List Char × List Char)
  | [] => none
  | c :: rest =>
    if c == ':' || c == ')' then
      if read.getLast? == some '-' then none else some (read, c :: rest)
    else if (c == '-' || flags.contains c) && !read.contains c then flags? (read ++ [c]) rest
    else none

/-- Whether flags leave something on. -/
def isOn (flag : Char) (read : List Char) (before : Bool) : Bool :=
  if read.contains flag then !(read.takeWhile (· != flag)).contains '-' else before

/-- A mode changed by flags. -/
def Mode.with (mode : Mode) (read : List Char) : Mode :=
  ⟨isOn 'x' read mode.spaced, isOn 'u' read mode.unicode⟩

/-! ### Escapes -/

/-- What a part of a pattern stands for. -/
inductive Element
  | character (c : Char)
  | set
  /-- A place in the text, and no character. -/
  | place
  deriving DecidableEq, Repr

/-- The number that so many hexadecimal digits stand for, put behind those read before. -/
def hexDigits? (mode : Mode) : Nat → Nat → List Char → Option (Nat × List Char)
  | 0, value, s => some (value, s)
  | count + 1, value, c :: rest => do
    hexDigits? mode count (16 * value + (← hexValue? c)) (mode.skip rest)
  | _ + 1, _, [] => none

/-- The character that so many hexadecimal digits stand for. -/
def named? (mode : Mode) (count : Nat) (s : List Char) : Option (Char × List Char) := do
  let (code, rest) ← hexDigits? mode count 0 (mode.skip s)
  if code.isValidChar then some (Char.ofNat code, rest) else none

/-- The letters of the general categories of characters. -/
def categories : List Char :=
  ['C', 'L', 'M', 'N', 'P', 'S', 'Z', 'c', 'l', 'm', 'n', 'p', 's', 'z']

/-- The control characters that letters stand for. -/
def controls : List (Char × Char) :=
  [('a', '\x07'), ('f', '\x0c'), ('t', '\t'), ('n', '\n'), ('r', '\r'), ('v', '\x0b')]

/-- What stands behind a backslash. -/
def escape? (mode : Mode) : List Char → Option (Element × List Char)
  | [] => none
  | c :: rest =>
    if c == 'x' then do
      let (named, rest) ← named? mode 2 rest
      if mode.unicode || named.toNat < 0x80 then some (.character named, rest) else none
    else if c == 'u' then (named? mode 4 rest).map fun read => (.character read.1, read.2)
    else if c == 'U' then (named? mode 8 rest).map fun read => (.character read.1, read.2)
    else if c == 'p' || c == 'P' then
      match mode.skip rest with
      | category :: rest =>
        if mode.unicode && categories.contains category then some (.set, mode.skip rest)
        else none
      | [] => none
    else if c == 'd' || c == 's' || c == 'w' then some (.set, rest)
    else if c == 'D' || c == 'S' || c == 'W' then
      if mode.unicode then some (.set, rest) else none
    else if c == 'A' || c == 'z' then some (.place, rest)
    else if c == 'b' || c == 'B' || c == '<' || c == '>' then
      if mode.unicode then none else some (.place, rest)
    else if c.toNat < 0x80 && !c.isAlphanum then some (.character c, rest)
    else (controls.lookup c).map fun control => (.character control, rest)

/-! ### Sets -/

/-- The sets that have names. -/
def setNames : List String :=
  ["alnum", "alpha", "ascii", "blank", "cntrl", "digit", "graph", "lower", "print", "punct",
   "space", "upper", "word", "xdigit"]

/-- A set given by its name between colons, from after its opening bracket: whether it is
negated, and the text after it. -/
def namedSet? : List Char → Option (Bool × List Char)
  | ':' :: rest =>
    let (negated, rest) := match rest with
      | '^' :: rest => (true, rest)
      | rest => (false, rest)
    match rest.span (· != ':') with
    | (name, ':' :: ']' :: rest) =>
      if setNames.contains (String.ofList name) then some (negated, rest) else none
    | _ => none
  | _ => none

/-- A text without the hyphens at its start.  Every one takes a character. -/
def skipHyphens (mode : Mode) : Nat → List Char → List Char
  | fuel + 1, '-' :: rest => skipHyphens mode fuel (mode.skip rest)
  | _, s => s

/-- The text after the start of a set, from after its opening bracket.  A caret negates the
set, and hyphens or else one closing bracket at the start stand for themselves. -/
def beginSet? (mode : Mode) (s : List Char) : Option (List Char) := do
  let s ← match mode.skip s with
    | '^' :: rest => if mode.unicode then some (mode.skip rest) else none
    | s => some s
  match s with
  | [] => none
  | ']' :: rest => some (mode.skip rest)
  | s => some (skipHyphens mode s.length s)

/-- One character of a set, or a set that an escape stands for. -/
def single? (mode : Mode) : List Char → Option (Element × List Char)
  | [] => none
  | '\\' :: rest => escape? mode rest
  | c :: rest => some (.character c, rest)

/-- Whether a character can be in a set. -/
def Mode.allows (mode : Mode) (c : Char) : Bool :=
  mode.unicode || c.toNat < 0x80

/-- The text after a member of a set: a character, a set, or a range of characters. -/
def member? (mode : Mode) (s : List Char) : Option (List Char) := do
  let (first, rest) ← single? mode s
  let alone (rest : List Char) : Option (List Char) :=
    match first with
    | .character c => if mode.allows c then some rest else none
    | .set => some rest
    | .place => none
  match mode.skip rest with
  | [] => none
  | '-' :: behind =>
    match mode.skip behind with
    | ']' :: _ => alone ('-' :: behind)
    | '-' :: _ => alone ('-' :: behind)
    | behind => do
      let (last, rest) ← single? mode behind
      match first, last with
      | .character a, .character b =>
        if a ≤ b && mode.allows a && mode.allows b then some rest else none
      | _, _ => none
  | rest => alone rest

/-- The text after the members of sets that lie in each other to some depth, and their closing
brackets.  Sets can be joined by `&&`, `--` and `~~`.  Every member takes a character. -/
def members? (mode : Mode) : Nat → Nat → List Char → Option (List Char)
  | 0, _, _ => none
  | fuel + 1, depth, s =>
    match mode.skip s with
    | [] => none
    | '[' :: rest =>
      match namedSet? rest with
      | some (negated, rest) =>
        if negated && !mode.unicode then none else members? mode fuel depth rest
      | none => do members? mode fuel (depth + 1) (← beginSet? mode rest)
    | ']' :: rest => if depth = 0 then some rest else members? mode fuel (depth - 1) rest
    | '&' :: '&' :: rest => members? mode fuel depth rest
    | '-' :: '-' :: rest => members? mode fuel depth rest
    | '~' :: '~' :: rest => members? mode fuel depth rest
    | s => do members? mode fuel depth (← member? mode s)

/-- The text after a set, from after its opening bracket. -/
def set? (mode : Mode) (s : List Char) : Option (List Char) := do
  let rest ← beginSet? mode s
  members? mode (rest.length + 1) 0 rest

/-! ### Groups -/

/-- What an opening parenthesis starts. -/
inductive Opening
  /-- A group, with the mode inside it and the name it has. -/
  | group (mode : Mode) (name : Option (List Char))
  /-- A change of the mode up to the end of the group around it. -/
  | change (mode : Mode)
  deriving DecidableEq, Repr

/-- The name of a group and the text after it, from after an angle bracket. -/
def groupName? (s : List Char) : Option (List Char × List Char) :=
  match s.span (· != '>') with
  | (first :: others, '>' :: rest) =>
    let starts := first == '_' || (isAlphanumeric first && !first.isDigit)
    let goesOn (c : Char) :=
      c == '_' || c == '.' || c == '[' || c == ']' || isAlphanumeric c
    if starts && others.all goesOn then some (first :: others, rest) else none
  | _ => none

/-- What an opening parenthesis starts, from after it, and the text after that. -/
def opening? (mode : Mode) (s : List Char) : Option (Opening × List Char) :=
  let named (s : List Char) :=
    (groupName? s).map fun read => (Opening.group mode (some read.1), read.2)
  match mode.skip s with
  | '?' :: '<' :: '=' :: _ => none
  | '?' :: '<' :: '!' :: _ => none
  | '?' :: '<' :: rest => named rest
  | '?' :: 'P' :: '<' :: rest => named rest
  | '?' :: rest => do
    match ← flags? [] rest with
    | ([], ')' :: _) => none
    | (read, ')' :: rest) => some (.change (mode.with read), rest)
    | (read, _ :: rest) => some (.group (mode.with read) none, rest)
    | _ => none
  | s => some (.group mode none, s)

/-! ### Patterns -/

/-- What has been read of a pattern. -/
structure Progress where
  mode : Mode
  /-- The modes of the groups around, the innermost first. -/
  outer : List Mode
  /-- The names of groups. -/
  names : List (List Char)
  /-- Whether something has been read that can be repeated. -/
  repeatable : Bool

/-- Whether the rest of a pattern is well formed.  Every step takes a character. -/
def completes : Nat → Progress → List Char → Bool
  | 0, _, _ => false
  | fuel + 1, progress, s =>
    let mode := progress.mode
    let goOn := completes fuel { progress with repeatable := true }
    match mode.skip s with
    | [] => progress.outer.isEmpty
    | '(' :: rest =>
      match opening? mode rest with
      | some (.group inner name, rest) =>
        !name.any progress.names.contains
          && completes fuel ⟨inner, mode :: progress.outer, name.toList ++ progress.names, false⟩
            rest
      | some (.change changed, rest) =>
        completes fuel { progress with mode := changed, repeatable := false } rest
      | none => false
    | ')' :: rest =>
      match progress.outer with
      | [] => false
      | mode :: outer => completes fuel { progress with mode, outer, repeatable := true } rest
    | '|' :: rest => completes fuel { progress with repeatable := false } rest
    | '[' :: rest => (set? mode rest).any goOn
    | '\\' :: rest => (escape? mode rest).any fun read => goOn read.2
    | '\x7b' :: _ => false
    | '.' :: rest => mode.unicode && goOn rest
    | c :: rest =>
      if c == '?' || c == '*' || c == '+' then
        progress.repeatable && match rest with
          | '?' :: rest => goOn rest
          | rest => goOn rest
      else goOn rest

/-- Whether a text is a pattern. -/
def isWellFormed (s : List Char) : Bool :=
  completes (s.length + 1) ⟨⟨false, true⟩, [], [], false⟩ s

end ImageRetention.Log.Pattern
