/-
Log entries:

* `Level`: how important an entry is;
* `Source`: the part of the program that speaks, and the path by which log filters name it;
* `Entry`: one message from one source.
-/

namespace ImageRetention.Log

/-- How important an entry is. -/
inductive Level
  | error
  | warn
  | info
  | debug
  | trace
  deriving DecidableEq, Repr

/-- The verbosity at which entries of a level start to show. -/
def Level.rank : Level → Nat
  | error => 1
  | warn => 2
  | info => 3
  | debug => 4
  | trace => 5

/-- The part of the program that speaks. -/
inductive Source
  | commandLine
  | settings
  | live
  | commits
  | revisions
  | references
  | tags
  | retention
  | registry
  | azure
  | process
  | git
  | az
  deriving DecidableEq, Repr

/-- The path by which log filters name a source. -/
def Source.path : Source → String
  | commandLine => "imgsweep_cli::cli"
  | settings => "imgsweep_cli::config"
  | live => "imgsweep_cli::live"
  | commits => "imgsweep_cli::live::commits"
  | revisions => "imgsweep_cli::live::revisions"
  | references => "imgsweep_cli::live::references"
  | tags => "imgsweep_cli::live::tags"
  | retention => "imgsweep_cli::garbage"
  | registry => "imgsweep_cli::registry"
  | azure => "imgsweep_cli::registry::azure"
  | process => "imgsweep_cli::utils::process"
  | git => "git"
  | az => "az"

/-- One message from one source. -/
structure Entry where
  level : Level
  source : Source
  message : String
  deriving DecidableEq, Repr

end ImageRetention.Log
