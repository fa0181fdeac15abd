import ImageRetention.Settings
import ImageRetention.SortedSet
import ImageRetention.Toml.Description
import ImageRetention.Toml.Reader

/-
Settings from a TOML document.

* `Settings.Changes.ofText`: the settings that a document gives, or the first problem in it.

A document that breaks a rule of TOML is unreadable as a whole.  Otherwise its keys are looked
at in ascending order; all of them must be known.
-/

namespace ImageRetention.Settings.Changes

open Decoding (Problem)

/-! ### Values -/

/-- The problem that a value of the wrong type is. -/
def mismatch (value : Toml) (expected : String) : Problem :=
  match value.describe? with
  | some found => .wrongType found expected
  | none => .unreadable

/-- A text. -/
def text : Toml → Except Problem String
  | .string text => .ok text
  | value => .error (mismatch value "a string")

/-- A number of things, in 64 bits. -/
def count : Toml → Except Problem Nat
  | .integer n =>
    if 0 ≤ n ∧ n < Int.pow 2 64 then .ok n.toNat
    else if -Int.pow 2 63 ≤ n ∧ n < 0 then
      .error (.wrongValue ("integer " ++ Decoding.backquoted (toString n)) "usize")
    else .error (mismatch (.integer n) "usize")
  | value => .error (mismatch value "usize")

/-! ### Keys -/

/-- The keys that a document can hold. -/
def knownKeys : List String :=
  ["registry_name", "repository_name", "tracked_path", "max_parallel"]

/-- Changes with the one that a key stands for. -/
def withEntry (changes : Changes) (key : String) (value : Toml) : Except Problem Changes :=
  match key with
  | "registry_name" => do return { changes with registry := some (← text value) }
  | "repository_name" => do return { changes with repository := some (← text value) }
  | "tracked_path" => do return { changes with trackedPath := some (← text value) }
  | "max_parallel" => do return { changes with maxParallel := some (← count value) }
  | _ => .error (.unknownField key knownKeys)

/-- The entries of a document in the order of their keys. -/
def inOrder (entries : Toml.Entries) : Toml.Entries :=
  (SortedSet.ofList (entries.map Prod.fst)).toList.filterMap fun key =>
    (entries.lookup key).map fun value => (key, value)

/-- The settings that the entries of a document give. -/
def ofEntries (entries : Toml.Entries) : Except Problem Changes :=
  (inOrder entries).foldlM (fun changes entry => changes.withEntry entry.1 entry.2) {}

/-- The settings that a document gives, or the first problem in it. -/
def ofText (s : List Char) : Except Problem Changes :=
  match Toml.ofText? s with
  | some entries => ofEntries entries
  | none => .error .unreadable

end ImageRetention.Settings.Changes
