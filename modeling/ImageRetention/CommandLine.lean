import ImageRetention.Failure
import ImageRetention.Instant
import ImageRetention.Log.Filter
import ImageRetention.RootFilter
import ImageRetention.Settings

/-
What a command line asks for.

* `Verbosity`: how much is logged;
* `CommandLine`: everything that a command line says;
* `CommandLine.minAge`: the minimum age it gives, in nanoseconds;
* `minAge_eq_ok_iff`: exactly the ages from zero days up to the longest duration are accepted,
  and they are computed exactly.
-/

namespace ImageRetention

/-! ### Verbosity -/

/-- How much is logged. -/
inductive Verbosity
  | debug
  | info
  | warning
  | error
  | critical
  | notSet
  deriving DecidableEq, Repr

namespace Verbosity

/-- All verbosities, from the most common words on. -/
def all : List Verbosity := [debug, info, warning, error, critical, notSet]

/-- The name of a verbosity on the command line. -/
def name : Verbosity → String
  | debug => "DEBUG"
  | info => "INFO"
  | warning => "WARNING"
  | error => "ERROR"
  | critical => "CRITICAL"
  | notSet => "NOTSET"

/-- The verbosity with a name, in any case of letters. -/
def ofName? (text : String) : Option Verbosity :=
  all.find? fun verbosity => verbosity.name.toList == text.toList.map Char.toUpper

/-- The level from which a verbosity shows log entries. -/
def level : Verbosity → Log.Level
  | debug => .debug
  | info => .info
  | warning => .warn
  | error => .error
  | critical => .error
  | notSet => .trace

/-- A verbosity as a log filter is written. -/
def directive (verbosity : Verbosity) : String :=
  match verbosity.level with
  | .error => "error"
  | .warn => "warn"
  | .info => "info"
  | .debug => "debug"
  | .trace => "trace"

/-- The log entries that a verbosity shows. -/
def filter (verbosity : Verbosity) : Log.Filter :=
  Log.Filter.ofRank verbosity.level.rank

end Verbosity

/-! ### Command lines -/

/-- Everything that a command line says. -/
structure CommandLine where
  /-- The path of the repository, as the user writes it. -/
  repoPath : String
  rootFilters : List RootFilter
  /-- The minimum age in days. -/
  minAgeDays : Int
  /-- The file with the manifest listing, if it is not asked for. -/
  manifests : Option String
  verbosity : Verbosity
  /-- The settings file that must be there. -/
  config : Option String
  changes : Settings.Changes
  dryRun : Bool
  deriving DecidableEq, Repr

namespace CommandLine

/-- The longest duration, in milliseconds. -/
def longestMillis : Int := Int.pow 2 63 - 1

/-- Milliseconds in a day. -/
def millisPerDay : Int := secondsPerDay * 1000

/-- A number of days as a duration in nanoseconds. -/
def nanosOfDays (days : Int) : Int :=
  days * secondsPerDay * nanosPerSecond

/-- The minimum age in nanoseconds. -/
def minAge (commandLine : CommandLine) : Except Cause Int :=
  let days := commandLine.minAgeDays
  if days < 0 then .error (.negativeMinAge days)
  else if longestMillis < days * millisPerDay then .error (.minAgeOutOfRange days)
  else .ok (nanosOfDays days)

/-- Exactly the ages from zero days up to the longest duration are accepted. -/
theorem minAge_eq_ok_iff {commandLine : CommandLine} {age : Int} :
    commandLine.minAge = .ok age ↔
      0 ≤ commandLine.minAgeDays ∧
        commandLine.minAgeDays * millisPerDay ≤ longestMillis ∧
        age = nanosOfDays commandLine.minAgeDays := by
  unfold minAge
  simp only
  split
  · rename_i h
    simp only [reduceCtorEq, false_iff]
    omega
  · split
    · rename_i h
      simp only [reduceCtorEq, false_iff]
      omega
    · rename_i hNonneg hBound
      simp only [Except.ok.injEq]
      constructor
      · rintro rfl
        exact ⟨by omega, by omega, rfl⟩
      · rintro ⟨_, _, h⟩
        exact h.symm

end CommandLine

end ImageRetention
