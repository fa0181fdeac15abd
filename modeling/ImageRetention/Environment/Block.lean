import ImageRetention.Environment
import ImageRetention.Text.Split
import ImageRetention.Text.Utf8

/-
Environments as blocks of bytes: `NAME=value` pieces, each ended by a NUL.

* `Environment.ofBlock`: the environment in a block.
-/

namespace ImageRetention.Environment

/-- The name and the value in a piece, if it has an equals sign. -/
def settingOf? (piece : List UInt8) : Option (String × String) :=
  (Text.splitOnce? '=' (Text.Utf8.decodeLossy piece)).map fun parts =>
    (String.ofList parts.1, String.ofList parts.2)

/-- The environment in a block.  Of two pieces with one name the first holds. -/
def ofBlock (block : List UInt8) : Environment :=
  ⟨(Text.split (· == 0) block).filterMap settingOf?⟩

end ImageRetention.Environment
