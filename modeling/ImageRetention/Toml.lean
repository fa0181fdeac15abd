/-
TOML documents as trees.

* `Toml`: a value; a table remembers how it came about, which decides what may be added to it;
* `Toml.Real`: a floating-point number in decimal;
* `Toml.addAt`: a value under a dotted key;
* `Toml.openTable`, `Toml.openItem`: the table that a header in single or double brackets
  starts;
* `Toml.updateAt`: a change to the table that such a header has started.

A table that a header or a pair of braces defines is defined once and for all, and dotted keys
extend only what dotted keys have made.
-/

namespace ImageRetention

namespace Toml

/-- A floating-point number as it is written, in decimal. -/
inductive Real
  /-- A significand and a power of ten. -/
  | finite (negative : Bool) (significand : Nat) (power : Int)
  | infinite (negative : Bool)
  | undefined
  deriving DecidableEq, Repr

/-- How a table came about. -/
inductive Origin
  /-- A header names it. -/
  | header
  /-- A header names a table inside it. -/
  | implied
  /-- A dotted key leads through it. -/
  | dotted
  /-- It is written between braces. -/
  | inline
  deriving DecidableEq, Repr

end Toml

/-- A TOML value. -/
inductive Toml
  | string (text : String)
  | integer (value : Int)
  /-- A word that passes for an integer, and has no value. -/
  | illegible
  | real (value : Toml.Real)
  | boolean (value : Bool)
  | dateTime
  | array (items : List Toml)
  /-- An array that headers in double brackets make, the last table first. -/
  | tables (items : List (List (String × Toml)))
  | table (origin : Toml.Origin) (entries : List (String × Toml))
  deriving Repr

namespace Toml

/-- The keys of a table and their values, in the order they were first met. -/
abbrev Entries : Type := List (String × Toml)

/-- Entries with the value of a key replaced. -/
def replace (key : String) (value : Toml) (entries : Entries) : Entries :=
  entries.map fun entry => if entry.1 = key then (key, value) else entry

/-- Entries with one more, unless the key is there already. -/
def addNew (key : String) (value : Toml) (entries : Entries) : Option Entries :=
  if (entries.lookup key).isSome then none else some (entries ++ [(key, value)])

/-- Entries with a value under a dotted key: the keys that lead to it, and the last one. -/
def addAt (key : String) (value : Toml) : List String → Entries → Option Entries
  | [], entries => addNew key value entries
  | next :: path, entries =>
    match entries.lookup next with
    | none => do
      let inner ← addAt key value path []
      some (entries ++ [(next, .table .dotted inner)])
    | some (.table .dotted inner) => do
      let inner ← addAt key value path inner
      some (replace next (.table .dotted inner) entries)
    | some (.table .implied inner) =>
      if path.isEmpty then none
      else do
        let inner ← addAt key value path inner
        some (replace next (.table .implied inner) entries)
    | some (.tables (last :: earlier)) =>
      if path.isEmpty then none
      else do
        let last ← addAt key value path last
        some (replace next (.tables (last :: earlier)) entries)
    | some _ => none

/-- Entries with a change to the table at a path.  Tables on the way that are not there are
implied, and an array of tables stands for its last one. -/
def updateAt (change : Entries → Option Entries) : List String → Entries → Option Entries
  | [], entries => change entries
  | next :: path, entries =>
    match entries.lookup next with
    | none => do
      let inner ← updateAt change path []
      some (entries ++ [(next, .table .implied inner)])
    | some (.table .inline _) => none
    | some (.table origin inner) => do
      let inner ← updateAt change path inner
      some (replace next (.table origin inner) entries)
    | some (.tables (last :: earlier)) => do
      let last ← updateAt change path last
      some (replace next (.tables (last :: earlier)) entries)
    | some _ => none

/-- Entries with a table under a key, for a header in single brackets. -/
def openTable (key : String) (entries : Entries) : Option Entries :=
  match entries.lookup key with
  | none => some (entries ++ [(key, .table .header [])])
  | some (.table .implied inner) => some (replace key (.table .header inner) entries)
  | some _ => none

/-- Entries with one more table in the array under a key, for a header in double brackets. -/
def openItem (key : String) (entries : Entries) : Option Entries :=
  match entries.lookup key with
  | none => some (entries ++ [(key, .tables [[]])])
  | some (.tables items) => some (replace key (.tables ([] :: items)) entries)
  | some _ => none

end Toml

end ImageRetention
