import ImageRetention.Path.Expansion
import ImageRetention.Reading
import ImageRetention.Settings.Document
import ImageRetention.Text.Utf8

/-
Where settings come from.

* `Settings.Source`: the one file that is considered, and whether it must be there;
* `Settings.source`: the file that was asked for, or the one that a variable names, or the
  standard one below the home directory;
* `Settings.loadFrom`, `Settings.load`: the settings of a file, on top of the standard ones.
-/

namespace ImageRetention.Settings

variable {σ : Type}

/-! ### The file -/

/-- The variable that names a settings file. -/
def pathVariable : String := "IMGSWEEP_CONFIG"

/-- The standard settings file. -/
def standardPath (world : World σ) : Except Failure String :=
  (Path.home world).map fun home => Path.join (Path.join home ".imgsweep") "config.toml"

/-- The file that settings are taken from. -/
inductive Source
  /-- A file that was asked for and must be there. -/
  | required (path : String)
  /-- A file that need not be there. -/
  | optional (path : String)
  /-- There is no home directory to look in. -/
  | nowhere (failure : Failure)
  deriving DecidableEq, Repr

/-- The file that settings are taken from. -/
def source (world : World σ) (asked : Option String) : Source :=
  match asked, world.environment.get? pathVariable with
  | some path, _ => .required path
  | none, some path => .optional path
  | none, none =>
    match standardPath world with
    | .ok path => .optional path
    | .error failure => .nowhere failure

/-! ### Loading -/

/-- The standard settings of a world. -/
def standardIn (world : World σ) : Settings :=
  standard (standardParallel world.processors)

/-- The text of a settings file. -/
def readText (world : World σ) (path : String) : Run σ (List Char) := do
  let bytes ← world.read path (.settingsRead path)
  match Text.Utf8.decode? bytes with
  | some text => return text
  | none => Run.fail (.ofIo .notText)

/-- The settings of a file, on top of the standard ones. -/
def loadFrom (world : World σ) (path : String) : Run σ Settings := do
  let text ← (readText world path).within ("Failed to read config from " ++ path)
  let changes ← Run.ofExcept ((Changes.ofText text).mapError fun problem =>
    .badSettings ("Invalid config " ++ path ++ ": " ++ problem.message))
  let settings := (standardIn world).changed changes
  Run.log .debug .settings ("Loaded config from " ++ path ++ ": " ++ settings.describe)
  return settings

/-- The settings of the file that is considered, or the standard ones if it need not be there
and is not. -/
def load (world : World σ) (asked : Option String) : Run σ Settings :=
  match source world asked with
  | .required path =>
    if world.existsAt path then loadFrom world path
    else Run.failFor (.badSettings ("Config file not found: " ++ path))
  | .optional path =>
    if world.existsAt path then loadFrom world path
    else do
      Run.log .debug .settings ("No config file at " ++ path ++ ", using defaults")
      return standardIn world
  | .nowhere failure => do
    Run.log .debug .settings ("No default config location: " ++ failure.message)
    return standardIn world

end ImageRetention.Settings
