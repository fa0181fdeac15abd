import ImageRetention.Toml.Scalar

/-
Reading TOML documents.

* `Toml.dottedKey`: the parts of a key;
* `Toml.value`: a value, with arrays and inline tables in it to a bounded depth;
* `Toml.Line`: a key with its value, or a header;
* `Toml.ofText?`: the entries of a whole document, if every rule is kept.
-/

namespace ImageRetention.Toml

/-! ### Keys -/

/-- Whether a character can stand in a key without quotes. -/
def isKeyChar (c : Char) : Bool :=
  c.isAlphanum || c == '-' || c == '_'

/-- One part of a key. -/
def keyPart : Reader String := fun s =>
  match s with
  | '"' :: '"' :: '"' :: _ => none
  | '\'' :: '\'' :: '\'' :: _ => none
  | '"' :: _ => lineText s
  | '\'' :: _ => lineText s
  | s =>
    let (part, rest) := s.span isKeyChar
    if part.isEmpty then none else some (String.ofList part, rest)

/-- The parts of a key, with dots between them.  Every part takes a character. -/
def keyParts : Nat → Reader (List String)
  | 0, _ => none
  | fuel + 1, s => do
    let (part, rest) ← keyPart s
    match skipBlanks rest with
    | '.' :: rest => do
      let (parts, rest) ← keyParts fuel (skipBlanks rest)
      some (part :: parts, rest)
    | _ => some ([part], rest)

/-- A key: the parts that lead to it, and the last one. -/
structure DottedKey where
  path : List String
  last : String
  deriving DecidableEq, Repr

/-- How many parts a key can have, and how deep arrays and inline tables can lie in each
other. -/
def greatestDepth : Nat := 80

/-- The key at the start of a text. -/
def dottedKey : Reader DottedKey := fun s => do
  let (parts, rest) ← keyParts (s.length + 1) s
  let last ← parts.getLast?
  if parts.length ≤ greatestDepth then some (⟨parts.dropLast, last⟩, rest) else none

/-- Entries with a value under a key. -/
def Entries.add (entries : Entries) (key : DottedKey) (value : Toml) : Option Entries :=
  addAt key.last value key.path entries

/-! ### Values -/

/-- A key and its value, as `one` reads values.  Around the equals sign stands what `skip`
passes over. -/
def keyValue (skip : List Char → Option (List Char)) (one : Reader Toml) :
    Reader (DottedKey × Toml) := fun s => do
  let (key, rest) ← dottedKey s
  match ← skip rest with
  | '=' :: rest => do
    let (value, rest) ← one (← skip rest)
    some ((key, value), rest)
  | _ => none

/-- The items of an array and its closing bracket.  Every item takes a character. -/
def items (one : Reader Toml) : Nat → Reader (List Toml)
  | 0, _ => none
  | fuel + 1, s => do
    match ← skipVoid false s with
    | ']' :: rest => some ([], rest)
    | s => do
      let (item, rest) ← one s
      match ← skipVoid false rest with
      | ',' :: rest => do
        let (more, rest) ← items one fuel rest
        some (item :: more, rest)
      | ']' :: rest => some ([item], rest)
      | _ => none

/-- The entries of an inline table, added to those read before, and its closing brace.  An
entry can go over several lines, and takes a character. -/
def members (one : Reader Toml) : Nat → Entries → Reader Entries
  | 0, _, _ => none
  | fuel + 1, entries, s => do
    match ← skipVoid false s with
    | '\x7d' :: rest => some (entries, rest)
    | s => do
      let ((key, value), rest) ← keyValue (skipVoid false) one s
      let entries ← entries.add key value
      match ← skipVoid false rest with
      | ',' :: rest => members one fuel entries rest
      | '\x7d' :: rest => some (entries, rest)
      | _ => none

/-- A value in which arrays and inline tables lie in each other to some depth. -/
def value : Nat → Reader Toml
  | 0 => scalar
  | depth + 1 => fun s =>
    match s with
    | '[' :: rest =>
      (items (value depth) (rest.length + 1) rest).map fun read => (.array read.1, read.2)
    | '\x7b' :: rest =>
      (members (value depth) (rest.length + 1) [] rest).map fun read =>
        (.table .inline read.1, read.2)
    | s => scalar s

/-! ### Documents -/

/-- What stands on a line of its own. -/
inductive Line
  | entry (key : DottedKey) (value : Toml)
  | tableHeader (key : DottedKey)
  | itemHeader (key : DottedKey)

/-- The key of a header, and the text after its closing brackets. -/
def headerKey (brackets : Nat) : Reader DottedKey := fun s => do
  let (key, rest) ← dottedKey (skipBlanks s)
  let rest := skipBlanks rest
  if rest.take brackets = List.replicate brackets ']' then some (key, rest.drop brackets)
  else none

/-- A header, or a key with its value. -/
def line : Reader Line := fun s =>
  match s with
  | '[' :: '[' :: rest => (headerKey 2 rest).map fun read => (.itemHeader read.1, read.2)
  | '[' :: rest => (headerKey 1 rest).map fun read => (.tableHeader read.1, read.2)
  | s =>
    (keyValue (some ∘ skipBlanks) (value greatestDepth) s).map fun read => (.entry read.1.1 read.1.2, read.2)

/-- A document as far as it has been read. -/
structure Draft where
  /-- The table that entries are added to, by the keys that lead to it. -/
  current : List String
  entries : Entries

/-- A draft with one more line. -/
def Draft.withLine (draft : Draft) : Line → Option Draft
  | .entry key value =>
    (updateAt (fun entries => Entries.add entries key value) draft.current draft.entries).map
      fun entries => { draft with entries }
  | .tableHeader key =>
    (updateAt (openTable key.last) key.path draft.entries).map
      fun entries => ⟨key.path ++ [key.last], entries⟩
  | .itemHeader key =>
    (updateAt (openItem key.last) key.path draft.entries).map
      fun entries => ⟨key.path ++ [key.last], entries⟩

/-- The lines of a text, put into a draft one by one.  Every line takes a character. -/
def readLines : Nat → Draft → List Char → Option Entries
  | 0, _, _ => none
  | fuel + 1, draft, s => do
    match ← skipVoid false s with
    | [] => some draft.entries
    | s => do
      let (read, rest) ← line s
      let draft ← draft.withLine read
      let rest ← skipLineEnd rest
      readLines fuel draft rest

/-- A text without a byte order mark at its start. -/
def withoutMark (s : List Char) : List Char :=
  match s with
  | '\uFEFF' :: rest => rest
  | s => s

/-- The entries of a whole document, if it keeps every rule. -/
def ofText? (s : List Char) : Option Entries :=
  let s := withoutMark s
  readLines (s.length + 1) ⟨[], []⟩ s

end ImageRetention.Toml
