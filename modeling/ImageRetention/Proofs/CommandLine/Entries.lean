import Mathlib.Tactic
import ImageRetention.CommandLine.Parameter

/-!
Values for options, once they have been read.

* `Entry`: a value for an option, or the option that takes none;
* `Entry.ofValue?`: what a value says for an option that takes one, if it can be read;
* `Given.entered?`: the values with one more entry, none if the option has its value already;
* `toOption_withValue`, `toOption_withDryRun`: giving an option puts its entry in;
* `entered?_comm`: entries can be put in in either order;
* `foldlM_perm`: steps that can be taken in either order can be taken in any.
-/

namespace ImageRetention.CommandLine

/-! ### Entries -/

/-- A value for an option, or the option that takes none. -/
inductive Entry
  | repoPath (path : String)
  | minAge (days : Int)
  | manifests (path : String)
  | verbosity (level : Verbosity)
  | config (path : String)
  | registry (name : String)
  | repository (name : String)
  | trackedPath (path : String)
  | maxParallel (count : Nat)
  | dryRun
  deriving DecidableEq, Repr

namespace Entry

/-- The option that an entry is for. -/
def parameter : Entry → Parameter
  | repoPath _ => .setting .repoPath
  | minAge _ => .setting .minAge
  | manifests _ => .setting .manifests
  | verbosity _ => .setting .verbosity
  | config _ => .setting .config
  | registry _ => .setting .registry
  | repository _ => .setting .repository
  | trackedPath _ => .setting .trackedPath
  | maxParallel _ => .setting .maxParallel
  | dryRun => .switch .dryRun

/-- What a value says for an option, if it can be read. -/
def ofValue? (setting : Setting) (value : String) : Option Entry :=
  match setting with
  | .repoPath => some (repoPath value)
  | .minAge => (Given.integer value).toOption.map minAge
  | .manifests => (Given.file value).toOption.map manifests
  | .verbosity => (Given.verbosityOf value).toOption.map verbosity
  | .config => (Given.file value).toOption.map config
  | .registry => some (registry value)
  | .repository => some (repository value)
  | .trackedPath => some (trackedPath value)
  | .maxParallel => (Given.count value).toOption.map maxParallel

lemma parameter_of_ofValue? {setting : Setting} {value : String} {entry : Entry}
    (h : ofValue? setting value = some entry) : entry.parameter = .setting setting := by
  cases setting with
  | repoPath | registry | repository | trackedPath =>
      cases h
      rfl
  | minAge | manifests | verbosity | config | maxParallel =>
      obtain ⟨read, -, rfl⟩ := Option.map_eq_some_iff.mp h
      rfl

/-- The values with an entry in the place of its option. -/
def stored (given : Given) : Entry → Given
  | repoPath path => { given with repoPath := some path }
  | minAge days => { given with minAge := some days }
  | manifests path => { given with manifests := some path }
  | .verbosity level => { given with verbosity := some level }
  | config path => { given with config := some path }
  | registry name => { given with changes := { given.changes with registry := some name } }
  | repository name => { given with changes := { given.changes with repository := some name } }
  | trackedPath path => { given with changes := { given.changes with trackedPath := some path } }
  | maxParallel count =>
    { given with changes := { given.changes with maxParallel := some count } }
  | dryRun => { given with dryRun := true }

/-- Entries for two options have two places. -/
lemma stored_comm (given : Given) {first second : Entry}
    (h : first.parameter ≠ second.parameter) :
    stored (stored given first) second = stored (stored given second) first := by
  cases first <;> cases second <;> first | rfl | exact absurd rfl h

end Entry

/-! ### Values with an entry more -/

namespace Given

/-- Whether an option has been given already. -/
def holds (given : Given) : Parameter → Bool
  | .setting setting => given.has setting
  | .switch .dryRun => given.dryRun
  | .switch _ => false

lemma holds_stored (given : Given) (entry other : Entry) :
    (entry.stored given).holds other.parameter =
      (decide (other.parameter = entry.parameter) || given.holds other.parameter) := by
  cases entry <;> cases other <;> rfl

/-- The values with one more entry, unless its option has been given already. -/
def entered? (given : Given) (entry : Entry) : Option Given :=
  if given.holds entry.parameter then none else some (entry.stored given)

/-- Two entries can be put in in either order, and not at all if they are for one option. -/
lemma entered?_comm (given : Given) (first second : Entry) :
    (given.entered? first).bind (·.entered? second) =
      (given.entered? second).bind (·.entered? first) := by
  by_cases hsame : first.parameter = second.parameter
  · cases hfirst : given.holds first.parameter <;>
      simp [entered?, holds_stored, hsame, hsame ▸ hfirst]
  · cases hfirst : given.holds first.parameter <;> cases hsecond : given.holds second.parameter <;>
      simp [entered?, holds_stored, hsame, Ne.symm hsame, hfirst, hsecond,
        Entry.stored_comm given hsame]

lemma toOption_put (given : Given) (setting : Setting) (value : String) :
    (given.put setting value).toOption = (Entry.ofValue? setting value).map (·.stored given) := by
  cases setting with
  | repoPath | registry | repository | trackedPath => rfl
  | minAge =>
      rw [put, Entry.ofValue?]
      cases integer value <;> rfl
  | manifests | config =>
      rw [put, Entry.ofValue?]
      cases file value <;> rfl
  | verbosity =>
      rw [put, Entry.ofValue?]
      cases verbosityOf value <;> rfl
  | maxParallel =>
      rw [put, Entry.ofValue?]
      cases count value <;> rfl

/-- Giving an option its value puts the entry in that the value says. -/
lemma toOption_withValue (given : Given) (setting : Setting) (value : String) :
    (given.withValue setting value).toOption =
      (Entry.ofValue? setting value).bind given.entered? := by
  have hentered : ∀ entry, Entry.ofValue? setting value = some entry →
      given.entered? entry = if given.has setting then none else some (entry.stored given) := by
    intro entry hentry
    rw [entered?, Entry.parameter_of_ofValue? hentry]
    rfl
  rw [withValue]
  cases hentry : Entry.ofValue? setting value with
  | none =>
      have hput := toOption_put given setting value
      rw [hentry] at hput
      split
      · rfl
      · exact hput
  | some entry =>
      have hput := toOption_put given setting value
      rw [hentry] at hput
      rw [Option.bind_some, hentered entry hentry]
      split
      · rfl
      · exact hput

lemma toOption_withDryRun (given : Given) (long : Bool) :
    (given.withSwitch .dryRun long).toOption = given.entered? .dryRun := by
  rw [withSwitch, entered?]
  show _ = if given.dryRun then _ else _
  split <;> rfl

end Given

/-! ### Steps in any order -/

/-- Steps of which any two can be taken in either order can be taken in any order. -/
lemma foldlM_perm {α β : Type} {step : α → β → Option α}
    (hcomm : ∀ state first second,
      (step state first).bind (step · second) = (step state second).bind (step · first))
    {steps steps' : List β} (hperm : steps.Perm steps') (state : α) :
    steps.foldlM step state = steps'.foldlM step state := by
  induction hperm generalizing state with
  | nil => rfl
  | cons first _ ih =>
      rw [List.foldlM_cons, List.foldlM_cons]
      exact congrArg _ (funext ih)
  | swap first second rest =>
      simp only [List.foldlM_cons, Option.bind_eq_bind]
      rw [← Option.bind_assoc, ← Option.bind_assoc, hcomm]
  | trans _ _ ih ih' => exact (ih state).trans (ih' state)

end ImageRetention.CommandLine
