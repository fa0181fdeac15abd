import ImageRetention.Host.Word
import ImageRetention.Instant.Reader
import ImageRetention.Invocation
import ImageRetention.Text.Blank
import ImageRetention.Text.Digits
import ImageRetention.Text.Utf8

/-
The lines that go to a host and come back from it.

* `Host.Circumstances`: the time it is and the number of processors, and how a line tells
  them;
* `Host.requestLines`: a run of an outside program, as lines;
* `Host.response?`: how it ended, from a line.
-/

namespace ImageRetention.Host

/-! ### Circumstances -/

/-- What a host tells once, before it is asked to run anything. -/
structure Circumstances where
  now : Instant
  processors : Nat
  deriving DecidableEq, Repr

/-- The line that asks for the circumstances. -/
def circumstancesRequest : String := "circumstances"

/-- The circumstances that a line tells: an instant and a number. -/
def circumstances? (line : List Char) : Option Circumstances :=
  match Text.fields line with
  | [instant, processors] => do
    let now ← Instant.ofText? (String.ofList instant)
    let processors ← Text.natural? processors
    some ⟨now, processors⟩
  | _ => none

/-! ### Runs -/

/-- A line of a request: its first word tells what the others are. -/
def requestLine (kind : String) (words : List String) : String :=
  String.intercalate " "
    (kind :: words.map fun text => String.ofList (word (Text.Utf8.bytesOf text)))

/-- A run of an outside program: a line for each variable set for it, and then one for the
program and its arguments. -/
def requestLines (invocation : Invocation) : List String :=
  (invocation.settings.map fun setting => requestLine "set" [setting.1, setting.2])
    ++ [requestLine "run" (invocation.program :: invocation.arguments)]

/-- The exit code that a word tells; a hyphen tells of a signal. -/
def exitCode? (word : List Char) : Option (Option Int) :=
  if word = ['-'] then some none else (Text.integer? word).map some

/-- How a run ended: its exit code, its milliseconds, and what it printed to both streams. -/
def response? (line : List Char) : Option Response :=
  match Text.fields line with
  | [exitCode, millis, stdout, stderr] => do
    let exitCode ← exitCode? exitCode
    let millis ← Text.natural? millis
    let stdout ← bytes? stdout
    let stderr ← bytes? stderr
    some ⟨exitCode, stdout, stderr, millis⟩
  | _ => none

end ImageRetention.Host
