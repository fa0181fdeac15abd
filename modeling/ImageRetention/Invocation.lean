/-
Runs of outside programs.

* `Invocation`: a program, its arguments and the variables set for it;
* `Invocation.text`: the command line as messages show it;
* `Response`: how a run ended and what it printed.
-/

namespace ImageRetention

/-- A run of an outside program. -/
structure Invocation where
  program : String
  arguments : List String
  /-- The environment variables set for this run only, in the order they were set. -/
  settings : List (String × String)
  deriving DecidableEq, Repr

namespace Invocation

/-- The program and its arguments with single spaces between them. -/
def text (invocation : Invocation) : String :=
  invocation.program ++ " " ++ String.intercalate " " invocation.arguments

/-- Whether a text holds the character that no argument can hold. -/
def holdsNul (text : String) : Bool :=
  text.toList.contains '\x00'

/-- Whether the operating system can pass the arguments and variables on. -/
def isPassable (invocation : Invocation) : Bool :=
  !invocation.arguments.any holdsNul
    && !invocation.settings.any fun setting => holdsNul setting.1 || holdsNul setting.2

end Invocation

/-- How a run ended, and what it printed. -/
structure Response where
  /-- The exit code, or none if a signal ended the run. -/
  exitCode : Option Int
  stdout : List UInt8
  stderr : List UInt8
  /-- How many milliseconds the run took. -/
  millis : Nat
  deriving DecidableEq, Repr

/-- Whether a run ended successfully. -/
def Response.isSuccess (response : Response) : Bool :=
  response.exitCode == some 0

end ImageRetention
