import ImageRetention.CommandLine
import ImageRetention.Text.Digits

/-
The options of the command line and what was given for them.

* `Setting`, `Switch`: options with a value and without one;
* `Parameter.ofLong?`, `Parameter.ofShort?`: the option that a name or a letter stands for;
* `Given`: the values given so far, and `Given.withValue`, `Given.withSwitch`, which add one;
* `Refusal`: why a command line is not carried out.
-/

namespace ImageRetention.CommandLine

/-! ### Options -/

/-- The options that take a value. -/
inductive Setting
  | repoPath
  | minAge
  | manifests
  | verbosity
  | config
  | registry
  | repository
  | trackedPath
  | maxParallel
  deriving DecidableEq, Repr

/-- The options without a value. -/
inductive Switch
  | dryRun
  | help
  | version
  deriving DecidableEq, Repr

/-- An option. -/
inductive Parameter
  | setting (setting : Setting)
  | switch (switch : Switch)
  deriving DecidableEq, Repr

namespace Parameter

/-- The option that a name after two hyphens stands for. -/
def ofLong? : String → Option Parameter
  | "repo-path" => some (.setting .repoPath)
  | "min-age" => some (.setting .minAge)
  | "manifests" => some (.setting .manifests)
  | "verbosity" => some (.setting .verbosity)
  | "config" => some (.setting .config)
  | "registry" => some (.setting .registry)
  | "repository" => some (.setting .repository)
  | "tracked-path" => some (.setting .trackedPath)
  | "max-parallel" => some (.setting .maxParallel)
  | "dry-run" => some (.switch .dryRun)
  | "help" => some (.switch .help)
  | "version" => some (.switch .version)
  | _ => none

/-- The option that a letter after one hyphen stands for. -/
def ofShort? : Char → Option Parameter
  | 'p' => some (.setting .repoPath)
  | 'm' => some (.setting .minAge)
  | 'v' => some (.setting .verbosity)
  | 'c' => some (.setting .config)
  | 'h' => some (.switch .help)
  | 'V' => some (.switch .version)
  | _ => none

end Parameter

/-! ### Refusals -/

/-- Why a command line is not carried out. -/
inductive Refusal
  /-- An option or argument that must be there is not. -/
  | missing
  /-- A value is missing, empty, or none of those that are possible. -/
  | invalidValue
  /-- A value is no number in range. -/
  | malformedValue
  /-- An option is given twice. -/
  | repeated
  /-- A value is given for an option that takes none. -/
  | unneededValue
  /-- The help text is asked for, in full or in short. -/
  | helpAsked (full : Bool)
  /-- The version is asked for. -/
  | versionAsked
  deriving DecidableEq, Repr

/-! ### Values -/

/-- The values given for the options. -/
structure Given where
  repoPath : Option String := none
  minAge : Option Int := none
  manifests : Option String := none
  verbosity : Option Verbosity := none
  config : Option String := none
  changes : Settings.Changes := {}
  dryRun : Bool := false
  deriving DecidableEq, Repr

namespace Given

/-- Whether an option has a value already. -/
def has (given : Given) : Setting → Bool
  | .repoPath => given.repoPath.isSome
  | .minAge => given.minAge.isSome
  | .manifests => given.manifests.isSome
  | .verbosity => given.verbosity.isSome
  | .config => given.config.isSome
  | .registry => given.changes.registry.isSome
  | .repository => given.changes.repository.isSome
  | .trackedPath => given.changes.trackedPath.isSome
  | .maxParallel => given.changes.maxParallel.isSome

/-- A file, which has a name. -/
def file (value : String) : Except Refusal String :=
  if value = "" then .error .invalidValue else .ok value

/-- An integer of 64 bits. -/
def integer (value : String) : Except Refusal Int :=
  match Text.integer? value.toList with
  | some n => if -Int.pow 2 63 ≤ n ∧ n < Int.pow 2 63 then .ok n else .error .malformedValue
  | none => .error .malformedValue

/-- A count of 64 bits. -/
def count (value : String) : Except Refusal Nat :=
  match Text.natural? value.toList with
  | some n => if n < Nat.pow 2 64 then .ok n else .error .malformedValue
  | none => .error .malformedValue

/-- A verbosity by its name. -/
def verbosityOf (value : String) : Except Refusal Verbosity :=
  match Verbosity.ofName? value with
  | some verbosity => .ok verbosity
  | none => .error .invalidValue

/-- The values with that of an option put in. -/
def put (given : Given) (setting : Setting) (value : String) : Except Refusal Given :=
  let changes := given.changes
  match setting with
  | .repoPath => .ok { given with repoPath := some value }
  | .minAge => do return { given with minAge := some (← integer value) }
  | .manifests => do return { given with manifests := some (← file value) }
  | .verbosity => do return { given with verbosity := some (← verbosityOf value) }
  | .config => do return { given with config := some (← file value) }
  | .registry => .ok { given with changes := { changes with registry := some value } }
  | .repository => .ok { given with changes := { changes with repository := some value } }
  | .trackedPath => .ok { given with changes := { changes with trackedPath := some value } }
  | .maxParallel => do
    let n ← count value
    return { given with changes := { changes with maxParallel := some n } }

/-- The values with one more.  No option takes two. -/
def withValue (given : Given) (setting : Setting) (value : String) : Except Refusal Given :=
  if given.has setting then .error .repeated else given.put setting value

/-- The values with an option without a value.  Asking for help or the version ends the
reading there and then. -/
def withSwitch (given : Given) (switch : Switch) (long : Bool) : Except Refusal Given :=
  match switch with
  | .dryRun => if given.dryRun then .error .repeated else .ok { given with dryRun := true }
  | .help => .error (.helpAsked long)
  | .version => .error .versionAsked

/-- The command line that some values and root filters make up. -/
def finish (given : Given) (roots : List String) : Except Refusal CommandLine :=
  match given.repoPath, given.minAge, roots with
  | some repoPath, some minAgeDays, _ :: _ =>
    .ok
      { repoPath
        minAgeDays
        rootFilters := roots.map RootFilter.ofText
        manifests := given.manifests
        verbosity := given.verbosity.getD .warning
        config := given.config
        changes := given.changes
        dryRun := given.dryRun }
  | _, _, _ => .error .missing

end Given

end ImageRetention.CommandLine
