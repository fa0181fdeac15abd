import ImageRetention.Path
import ImageRetention.Run
import ImageRetention.Text.CodePoint
import ImageRetention.Text.Split
import ImageRetention.World

/-
Paths as users write them.

* `Path.expandVariables`: `$NAME` and `${NAME}` stand for values of the environment, and
  `${NAME:-text}` for the text if the variable is not set;
* `Path.expandHome?`: a path below the home directory, after `~/`;
* `Path.resolve`: both in a row, the home directory first.
-/

namespace ImageRetention.Path

open Text (splitOnce? eq_of_splitOnce?)

/-! ### Variables -/

/-- Whether a character can be in the name of a variable that stands without braces. -/
def isNameChar (c : Char) : Bool :=
  Text.isAlphanumeric c || c == '_'

/-- The parts of a text before and after its first `:-`. -/
def splitAtDefault? : List Char → Option (List Char × List Char)
  | [] => none
  | ':' :: '-' :: rest => some ([], rest)
  | c :: rest => (splitAtDefault? rest).map fun parts => (c :: parts.1, parts.2)

/-- The name of a variable between braces, and the text that takes the place of a value.  The
name cannot be empty if there is such a text. -/
def nameAndDefault (body : List Char) : List Char × Option (List Char) :=
  match splitAtDefault? body with
  | some (c :: name, text) => (c :: name, some text)
  | _ => (body, none)

/-- The value of a variable, or the text that takes its place. -/
def valueOf (lookup : String → Option String) (name : List Char)
    (default : Option (List Char)) : Except Root (List Char) :=
  match lookup (String.ofList name), default with
  | some value, _ => .ok value.toList
  | none, some text => .ok text
  | none, none => .error (.unsetVariable (String.ofList name))

theorem length_of_splitOnce? {sep : Char} {s before after : List Char}
    (h : splitOnce? sep s = some (before, after)) : after.length < s.length := by
  rw [(eq_of_splitOnce? h).1]
  simp only [List.length_append, List.length_cons]
  omega

theorem length_dropWhile_lt {p : Char → Bool} {s : List Char} (h : s.takeWhile p ≠ []) :
    (s.dropWhile p).length < s.length := by
  cases s with
  | nil => simp at h
  | cons c rest =>
    cases hc : p c with
    | false => simp [hc] at h
    | true =>
      have : (rest.dropWhile p).length ≤ rest.length := (List.dropWhile_suffix p).length_le
      simp only [List.dropWhile_cons, hc, if_true, List.length_cons]
      omega

/-- A text with the variables in it replaced by their values.  Values are not looked into
again; a dollar sign before another one stands for itself, and so does one before anything
that is no variable. -/
def expandVariables (lookup : String → Option String) : List Char → Except Root (List Char)
  | [] => .ok []
  | '$' :: '\x7b' :: inner =>
    match h : splitOnce? '\x7d' inner with
    | none => (expandVariables lookup inner).map fun rest => '$' :: '\x7b' :: rest
    | some (body, after) => do
      have : after.length < inner.length := length_of_splitOnce? h
      let (name, default) := nameAndDefault body
      let value ← valueOf lookup name default
      let rest ← expandVariables lookup after
      .ok (value ++ rest)
  | '$' :: '$' :: rest => (expandVariables lookup rest).map ('$' :: ·)
  | '$' :: rest =>
    if h : rest.takeWhile isNameChar = [] then
      (expandVariables lookup rest).map ('$' :: ·)
    else do
      have : (rest.dropWhile isNameChar).length < rest.length := length_dropWhile_lt h
      let value ← valueOf lookup (rest.takeWhile isNameChar) none
      let rest ← expandVariables lookup (rest.dropWhile isNameChar)
      .ok (value ++ rest)
  | c :: rest => (expandVariables lookup rest).map (c :: ·)
termination_by s => s.length

/-! ### The home directory -/

/-- What a path says about the home directory. -/
inductive HomeForm
  /-- It is the home directory. -/
  | home
  /-- It lies below the home directory. -/
  | below (path : String)
  /-- It names the home directory of someone else. -/
  | ofOther
  /-- It says nothing about it. -/
  | absent
  deriving DecidableEq, Repr

/-- What a path says about the home directory. -/
def homeForm (path : String) : HomeForm :=
  match path.toList with
  | ['~'] => .home
  | '~' :: '/' :: rest => .below (String.ofList rest)
  | '~' :: _ => .ofOther
  | _ => .absent

/-- The failure if there is no home directory. -/
def noHome : Failure :=
  ⟨[], .message ("Could not determine home directory.\n\n"
    ++ "Set the HOME environment variable (or USERPROFILE on Windows)")⟩

/-- The home directory, or the failure that there is none. -/
def home {σ : Type} (world : World σ) : Except Failure String :=
  match world.home? with
  | some home => .ok home
  | none => .error noHome

/-- A path with the home directory put in. -/
def expandHome {σ : Type} (world : World σ) (path : String) : Except Failure String :=
  match homeForm path with
  | .home => home world
  | .below rest => (home world).map fun home => join home rest
  | .ofOther =>
    .error ⟨[], .message ("Invalid path: " ++ path
      ++ "\n\nTilde expansion only supports '~/' for home directory")⟩
  | .absent => .ok path

/-! ### Resolution -/

/-- The path that a user means: the home directory is put in first, and then the values of
variables, also of those in the name of the home directory. -/
def resolve {σ : Type} (world : World σ) (path : String) : Except Failure String := do
  let expanded ← expandHome world path
  match expandVariables world.environment.get? expanded.toList with
  | .ok text => .ok (String.ofList text)
  | .error root =>
    .error ((Failure.mk [] root).within
      ("Failed to expand environment variables in path: " ++ expanded
        ++ "\n\nUse $VAR or $\x7bVAR\x7d and make sure the variable is defined"))

end ImageRetention.Path
