import ImageRetention.Environment.Block
import ImageRetention.Host

/-
The command line.

Settings files, the listing file and the repository are looked up here.  Outside programs are
run by the host: each is asked for on the output stream, and a line on the input stream tells
how it ended.  What the program prints follows when it has ended.
-/

namespace ImageRetention.Main

/-! ### Looking up -/

/-- The environment of this process. -/
def environment : IO Environment := do
  let block ← IO.FS.readBinFile "/proc/self/environ"
  return Environment.ofBlock block.data.toList

/-- A failure of the operating system. -/
def ioError : IO.Error → IoError
  | .noFileOrDirectory .. => .noSuchFile
  | .permissionDenied _ code details =>
    ⟨.permissionDenied, details ++ " (os error " ++ toString code ++ ")"⟩
  | .inappropriateType _ code details =>
    if code = 21 then .isADirectory
    else if code = 20 then .notADirectory
    else ⟨.other, details ++ " (os error " ++ toString code ++ ")"⟩
  | error => ⟨.other, toString error⟩

/-- What is at a path. -/
def look (path : String) : IO (Except IoError (List UInt8)) := do
  try
    let bytes ← IO.FS.readBinFile path
    return .ok bytes.data.toList
  catch error => return .error (ioError error)

/-- Whether a file can be opened. -/
def opens (path : String) : IO Bool := do
  try
    let _ ← IO.FS.Handle.mk path .read
    return true
  catch _ => return false

/-- Whether a program is on the search path. -/
def isInstalled (environment : Environment) (program : String) : IO Bool := do
  let search := (environment.get? "PATH").getD ""
  let directories := (Text.split (· == ':') search.toList).map String.ofList
  directories.anyM fun directory => opens (Path.join directory program)

/-! ### Talking to the host -/

/-- A line from the host, after some lines to it. -/
def ask (lines : List String) : IO (List Char) := do
  let output ← IO.getStdout
  for line in lines do
    output.putStrLn line
  output.flush
  return (← (← IO.getStdin).getLine).toList

/-- The circumstances, as the host tells them. -/
def circumstances : IO Host.Circumstances := do
  match Host.circumstances? (← ask [Host.circumstancesRequest]) with
  | some circumstances => return circumstances
  | none => throw (IO.userError "the host told no circumstances")

/-- How a run ended, as the host tells it. -/
def respond (invocation : Invocation) : IO Response := do
  match Host.response? (← ask (Host.requestLines invocation)) with
  | some response => return response
  | none => throw (IO.userError "the host told no response")

/-! ### The whole -/

/-- Goes on until the program has ended. -/
partial def serve (findings : Host.Findings) (arguments : List String)
    (responses : List Response) : IO Program.Output := do
  match Host.next findings arguments responses with
  | .finish output => return output
  | .run invocation => serve findings arguments (responses ++ [← respond invocation])

/-- Carries out a command line. -/
def carryOut (arguments : List String) (environment : Environment) (commandLine : CommandLine) :
    IO Program.Output := do
  let programs := [Git.program, Azure.program]
  let installed ← programs.filterM (isInstalled environment)
  let findings : Host.Findings := ⟨environment, [], installed, ← circumstances⟩
  let files ← (Host.paths findings commandLine).mapM fun path => do return (path, ← look path)
  serve { findings with files } arguments []

end ImageRetention.Main

open ImageRetention in
/-- The program. -/
def main (arguments : List String) : IO UInt32 := do
  let environment ← Main.environment
  let output ← match CommandLine.ofArguments arguments with
    | .error refusal => pure (Program.refuse (Styling.ofEnvironment environment) refusal)
    | .ok commandLine => Main.carryOut arguments environment commandLine
  (← IO.getStdout).putStr output.stdout
  (← IO.getStderr).putStr output.stderr
  return UInt32.ofNat output.exitCode
