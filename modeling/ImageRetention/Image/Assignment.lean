import ImageRetention.Image
import ImageRetention.Text.Blank
import ImageRetention.Text.Utf8

/-
Build containers named in a configuration file:

* `token`: the start of an assignment that names a build container;
* `valueAfter?`: what follows the last token of a line that anything follows;
* `scan`: the references of a file, one at most from each line.
-/

namespace ImageRetention.Image

/-- The assignment that names the build container. -/
def token : String := "CI_BUILD_CONTAINER="

/-- What follows the last occurrence of a token that does not end its line. -/
def valueAfter? (token : List UInt8) : List UInt8 → Option (List UInt8)
  | [] => none
  | b :: rest =>
    match valueAfter? token rest with
    | some value => some value
    | none =>
      if token.isPrefixOf (b :: rest) && token.length < (b :: rest).length then
        some ((b :: rest).drop token.length)
      else none

/-- The reference that a line names, without blanks at its end, if any of it is left. -/
def ofLine? (line : List UInt8) : Option ImageReference := do
  let value ← valueAfter? (Text.Utf8.bytesOf token) line
  let text := Text.trimEnd (Text.Utf8.decodeLossy value)
  if text.isEmpty then none else some ⟨String.ofList text⟩

/-- The references that a file names.  Lines end at line feeds only. -/
def scan (content : List UInt8) : SortedSet ImageReference :=
  SortedSet.ofList ((Text.split (· == 0x0A) content).filterMap ofLine?)

end ImageRetention.Image
