import ImageRetention.Command

/-
Runs of the Azure command line.

* `Azure`: the arguments and the time limit of a run;
* `Azure.showManifests`, `Azure.deleteImage`: the runs that a sweep needs;
* `Azure.execute`: the output, or a failure with all that was printed.
-/

namespace ImageRetention

/-- A run of the Azure command line. -/
structure Azure where
  arguments : List String := []
  /-- The time limit in milliseconds. -/
  limit : Option Nat := some Command.standardLimit
  deriving DecidableEq, Repr

namespace Azure

/-- The name of the program. -/
def program : String := "az"

/-! ### Building -/

/-- A run with further arguments. -/
def args (azure : Azure) (arguments : List String) : Azure :=
  { azure with arguments := azure.arguments ++ arguments }

/-- A run with a time limit in milliseconds, or with none. -/
def withLimit (azure : Azure) (limit : Option Nat) : Azure :=
  { azure with limit }

/-- Lists the manifests of a repository as JSON. -/
def showManifests (registry repository : String) : Azure :=
  ({} : Azure).args
    ["acr", "repository", "show-manifests", "--name", registry, "--repository", repository,
      "--output", "json"]

/-- Deletes the image with a digest from a repository. -/
def deleteImage (registry repository digest : String) : Azure :=
  ({} : Azure).args
    ["acr", "repository", "delete", "--name", registry, "--image",
      repository ++ "@" ++ digest, "--yes"]

/-! ### Running -/

/-- The run of the program. -/
def invocation (azure : Azure) : Invocation :=
  ⟨program, azure.arguments, []⟩

/-- The command line as messages show it. -/
def text (azure : Azure) : String :=
  azure.invocation.text

variable {σ : Type}

/-- Runs the Azure command line. -/
def execute (world : World σ) (azure : Azure) : Run σ (List UInt8) := do
  Run.log .debug .az ("Executing command: " ++ azure.text)
  let response ← world.invoke azure.invocation azure.limit
  if response.isSuccess then return response.stdout
  else
    let process := response.failedProcess azure.invocation
    Run.log .debug .az
      ("Command failed with exit code: " ++ Command.exitCodeText process.exitCode)
    Run.failFor (.azFailed process)

/-- Whether the Azure command line can be run. -/
def isInstalled (world : World σ) : Bool :=
  world.isInstalled world.environment program

end Azure

end ImageRetention
