import ImageRetention.Log.Entry
import ImageRetention.Text.Quoted
import ImageRetention.Text.Style

/-
How a log entry is written: its level right-aligned in five columns, a space and the message,
in which the control characters that steer a terminal are spelled out.
-/

namespace ImageRetention.Log

open Text (Style)

/-- The name of a level, right-aligned in five columns. -/
def Level.name : Level → String
  | error => "ERROR"
  | warn => " WARN"
  | info => " INFO"
  | debug => "DEBUG"
  | trace => "TRACE"

/-- The style of a level. -/
def Level.style : Level → Style
  | error => Style.red
  | warn => Style.yellow
  | info => Style.green
  | debug => Style.blue
  | trace => Style.purple

/-- A character of a message, spelled out if it could steer a terminal. -/
def legible (c : Char) : List Char :=
  match c with
  | '\x1b' => ['\\', 'x', '1', 'b']
  | '\x07' => ['\\', 'x', '0', '7']
  | '\x08' => ['\\', 'x', '0', '8']
  | '\x0c' => ['\\', 'x', '0', 'c']
  | '\x7f' => ['\\', 'x', '7', 'f']
  | _ =>
    if 0x80 ≤ c.toNat && c.toNat ≤ 0x9F then
      '\\' :: 'u' :: '\x7b' :: Text.hexDigits c.toNat ++ ['\x7d']
    else [c]

/-- An entry as it is written, without its time. -/
def Entry.line (entry : Entry) (styled : Bool) : String :=
  entry.level.style.paint styled entry.level.name ++ " "
    ++ String.ofList (entry.message.toList.flatMap legible)

end ImageRetention.Log
