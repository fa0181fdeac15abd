import ImageRetention.Text.Split

/-
Environment variables, each with the value it was last given.

* `Environment.value?`, `Environment.set`: reading and setting a variable;
* `Environment.get?`: what is found under a name, which may reach into a value;
* `value?_set`, `value?_setAll`: a variable has the value it was last given.
-/

namespace ImageRetention

/-- The environment of a process: variables and their values, the last set first. -/
structure Environment where
  settings : List (String × String)
  deriving DecidableEq, Repr

namespace Environment

/-- The value of a variable, if it is set. -/
def value? (environment : Environment) (name : String) : Option String :=
  environment.settings.lookup name

/-- An environment with a variable set. -/
def set (environment : Environment) (name value : String) : Environment :=
  ⟨(name, value) :: environment.settings⟩

/-- An environment with variables set one after the other. -/
def setAll (environment : Environment) (settings : List (String × String)) : Environment :=
  settings.foldl (fun environment setting => environment.set setting.1 setting.2) environment

theorem value?_set (environment : Environment) (name value other : String) :
    (environment.set name value).value? other =
      if other = name then some value else environment.value? other := by
  cases h : other == name with
  | true => simp [value?, set, beq_iff_eq.mp h]
  | false => simp [value?, set, List.lookup_cons, h, beq_eq_false_iff_ne.mp h]

/-- A variable has the last value among those it was given, or its former one. -/
theorem value?_setAll (environment : Environment) (settings : List (String × String))
    (name : String) :
    (environment.setAll settings).value? name =
      (settings.reverse.lookup name).or (environment.value? name) := by
  induction settings generalizing environment with
  | nil => rfl
  | cons setting rest ih =>
    have : environment.setAll (setting :: rest) =
        (environment.set setting.1 setting.2).setAll rest := rfl
    rw [this, ih, value?_set, List.reverse_cons, List.lookup_append, Option.or_assoc]
    congr 1
    obtain ⟨key, value⟩ := setting
    cases h : name == key with
    | true => simp [beq_iff_eq.mp h]
    | false => simp [List.lookup_cons, h, beq_eq_false_iff_ne.mp h]

/-- What is found under a name.  A variable stands in the environment as its name, an equals
sign and its value, and a name is looked for as what comes before an equals sign: one that
holds an equals sign itself names the start of a value, and what follows is found. -/
def get? (environment : Environment) (name : String) : Option String :=
  (environment.value? name).or do
    let (key, start) ← Text.splitOnce? '=' name.toList
    let value ← environment.value? (String.ofList key)
    let rest ← (start ++ ['=']).isPrefixOf? value.toList
    some (String.ofList rest)

/-- Under a name without an equals sign the value of that variable is found. -/
theorem get?_eq_value? {environment : Environment} {name : String} (h : '=' ∉ name.toList) :
    environment.get? name = environment.value? name := by
  have : Text.splitOnce? '=' name.toList = none := by
    cases hs : Text.splitOnce? '=' name.toList with
    | none => rfl
    | some parts =>
      have := (Text.eq_of_splitOnce? hs).1
      rw [this] at h
      simp at h
  simp [get?, this]

/-- A variable that is set to a text with something in it. -/
def nonEmpty? (environment : Environment) (name : String) : Option String :=
  (environment.get? name).filter fun value => value ≠ ""

end Environment

end ImageRetention
