import ImageRetention.CommandLine.Parameter
import ImageRetention.Text.Split

/-
Reading a command line.

* `Token`: what an argument looks like: two hyphens, a long option, a cluster of short ones,
  or a plain word;
* `Progress`: the values given so far, and the option whose value may still come;
* `CommandLine.ofArguments`: a whole command line, or why it is refused.

Options come first.  From the first root filter on everything is a root filter, whatever it
looks like, and so is an argument that looks like an option and is none.
-/

namespace ImageRetention.CommandLine

/-! ### Tokens -/

/-- What an argument looks like. -/
inductive Token
  /-- Two hyphens and nothing more. -/
  | separator
  /-- Two hyphens and a name, with what follows an equals sign. -/
  | long (name : String) (value : Option String)
  /-- One hyphen and letters. -/
  | short (letters : List Char)
  | plain
  deriving DecidableEq, Repr

/-- A long option from after its hyphens. -/
def longToken (text : List Char) : Token :=
  match Text.splitOnce? '=' text with
  | some (name, value) => .long (String.ofList name) (some (String.ofList value))
  | none => .long (String.ofList text) none

/-- What an argument looks like. -/
def Token.ofText (text : String) : Token :=
  match text.toList with
  | '-' :: '-' :: [] => .separator
  | '-' :: '-' :: rest => longToken rest
  | '-' :: c :: rest => .short (c :: rest)
  | _ => .plain

/-! ### Progress -/

/-- The option that was named last, if it takes a value. -/
inductive Pending
  /-- There is none. -/
  | none
  /-- Its value has not come yet. -/
  | awaits (setting : Setting)
  /-- Its value has come. -/
  | holds (setting : Setting) (value : String)
  deriving DecidableEq, Repr

/-- A command line as far as it has been read. -/
structure Progress where
  given : Given
  pending : Pending
  deriving DecidableEq, Repr

namespace Progress

/-- The values given so far, with that of the option named last. -/
def settle (progress : Progress) : Except Refusal Given :=
  match progress.pending with
  | .none => .ok progress.given
  | .awaits _ => .error .invalidValue
  | .holds setting value => progress.given.withValue setting value

/-- An option is named whose value will come. -/
def await (progress : Progress) (setting : Setting) : Except Refusal Progress := do
  return ⟨← progress.settle, .awaits setting⟩

/-- An option is named together with its value. -/
def take (progress : Progress) (setting : Setting) (value : String) :
    Except Refusal Progress := do
  let given ← progress.settle
  return ⟨← given.withValue setting value, .none⟩

/-- An option without a value is named. -/
def switch (progress : Progress) (switch : Switch) (long : Bool) : Except Refusal Progress := do
  let given ← progress.settle
  return ⟨← given.withSwitch switch long, .none⟩

/-- A long option is named. -/
def long (progress : Progress) (parameter : Parameter) (value : Option String) :
    Except Refusal Progress :=
  match parameter, value with
  | .setting setting, some value => progress.take setting value
  | .setting setting, none => progress.await setting
  | .switch _, some _ => .error .unneededValue
  | .switch switch, none => progress.switch switch true

/-- A cluster of short options: the first one that takes a value takes the rest of the
letters. -/
def cluster (progress : Progress) : List Char → Except Refusal Progress
  | [] => .ok progress
  | c :: rest =>
    match Parameter.ofShort? c with
    | some (.switch switch) => do
      let next ← progress.switch switch false
      next.cluster rest
    | some (.setting setting) =>
      if rest.isEmpty then progress.await setting
      else progress.take setting (String.ofList rest)
    | none => .ok progress

/-- Whether letters are options.  Letters of which one is no option are a value or a root
filter, as negative numbers are. -/
def areOptions (letters : List Char) : Bool :=
  letters.all fun c => (Parameter.ofShort? c).isSome

/-- The options that an argument names, put into effect; none if it names no option. -/
def withOptions? (progress : Progress) (token : Token) : Option (Except Refusal Progress) :=
  match token with
  | .long name value =>
    (Parameter.ofLong? name).map fun parameter => progress.long parameter value
  | .short letters =>
    if areOptions letters then some (progress.cluster letters) else none
  | _ => none

/-- The command line when all its options are read. -/
def finish (progress : Progress) (roots : List String) : Except Refusal CommandLine := do
  let given ← progress.settle
  given.finish roots

/-- Reads the arguments from some point on. -/
def read (progress : Progress) : List String → Except Refusal CommandLine
  | [] => progress.finish []
  | argument :: rest =>
    let token := Token.ofText argument
    if token = .separator then progress.finish rest
    else
      match progress.withOptions? token with
      | some next => next >>= fun next => next.read rest
      | none =>
        match progress.pending with
        | .awaits setting => (Progress.mk progress.given (.holds setting argument)).read rest
        | _ => progress.finish (argument :: rest)

end Progress

/-- Reads a whole command line. -/
def ofArguments (arguments : List String) : Except Refusal CommandLine :=
  (Progress.mk {} .none).read arguments

end ImageRetention.CommandLine
