import ImageRetention.CommandLine.Parameter
import ImageRetention.Text.Style

/-
The help page and the version.

* `Help.Item`: an option or argument with its explanations;
* `Help.page`: the page in full or in short, with or without terminal styles;
* `Help.version`: the version.
-/

namespace ImageRetention.CommandLine.Help

open Text (Style)

/-! ### Pieces -/

/-- A heading of the page. -/
def heading (styled : Bool) (text : String) : String :=
  if styled then Style.bold.start ++ Style.underlined.start ++ text ++ Style.reset else text

/-- A word that is typed as it stands. -/
def literal (styled : Bool) (text : String) : String :=
  Style.bold.paint styled text

/-! ### Items -/

/-- A possible value of an option, with its meaning. -/
structure Choice where
  name : String
  meaning : String
  deriving DecidableEq, Repr

/-- An option or argument with its explanations. -/
structure Item where
  /-- The letter of the option. -/
  letter : Option Char
  /-- The name of the option; none for an argument. -/
  name : Option String
  /-- What stands for the value. -/
  placeholder : Option String
  /-- The explanation on the short page. -/
  brief : String
  /-- The paragraphs on the full page. -/
  paragraphs : List String
  choices : List Choice := []
  /-- The value that holds where none is given. -/
  default : Option String := none
  deriving DecidableEq, Repr

namespace Item

/-- An option with one explanation for both pages. -/
def ofText (letter : Option Char) (name : String) (placeholder : Option String)
    (text : String) : Item :=
  { letter, name := some name, placeholder, brief := text, paragraphs := [text] }

/-- How an item is typed. -/
def usage (styled : Bool) (item : Item) : String :=
  let names := match item.letter, item.name with
    | some letter, some name =>
      "  " ++ literal styled ("-" ++ letter.toString) ++ ", " ++ literal styled ("--" ++ name)
    | _, some name => "      " ++ literal styled ("--" ++ name)
    | _, none => " "
  match item.placeholder with
  | some placeholder => names ++ " " ++ placeholder
  | none => names

/-- What the short page says about the values of an item. -/
def briefNotes (item : Item) : String :=
  (match item.default with
    | some value => " [default: " ++ value ++ "]"
    | none => "")
    ++ (if item.choices.isEmpty then ""
      else " [possible values: "
        ++ String.intercalate ", " (item.choices.map Choice.name) ++ "]")

/-- The line of an item on the short page, its explanation at a column. -/
def briefLine (styled : Bool) (column : Nat) (item : Item) : String :=
  let padding := column - (item.usage false).length
  item.usage styled ++ String.ofList (List.replicate padding ' ') ++ item.brief
    ++ item.briefNotes

/-- The line about a possible value, its meaning at a column. -/
def choiceLine (styled : Bool) (column : Nat) (choice : Choice) : String :=
  let padding := column - choice.name.length
  "- " ++ literal styled choice.name ++ ": "
    ++ String.ofList (List.replicate padding ' ') ++ choice.meaning

/-- The paragraphs about the values of an item on the full page. -/
def valueParagraphs (styled : Bool) (item : Item) : List (List String) :=
  let column := (item.choices.map fun choice => choice.name.length).foldl max 0
  (if item.choices.isEmpty then []
    else [("Possible values:" :: item.choices.map (choiceLine styled column))])
    ++ (match item.default with
      | some value => [["[default: " ++ value ++ "]"]]
      | none => [])

/-- The lines below an item on the full page.  The first blank line before the notes on
values is quite empty. -/
def fullLines (styled : Bool) (item : Item) : List String :=
  let indented (line : String) := "          " ++ line
  let texts := (item.paragraphs.map fun text => [indented text])
  let notes := (item.valueParagraphs styled).map fun lines => lines.map indented
  let join (blank : String) (groups : List (List String)) : List String :=
    ([blank] : List String).intercalate groups
  let before := join (indented "") texts
  if notes.isEmpty then before else before ++ "" :: join (indented "") notes

/-- An item on the full page. -/
def full (styled : Bool) (item : Item) : String :=
  String.intercalate "\n" (item.usage styled :: item.fullLines styled)

end Item

/-! ### The page -/

/-- What the program does, in short. -/
def summary : String :=
  "Garbage-collect CI container images that no retained commit references"

/-- What the program does. -/
def description : String :=
  "Remove images from an Azure Container Registry repository if they are no longer needed. "
    ++ "Images are considered needed a) if they are referenced by the .travis.yml file in any "
    ++ "of the commits included by the provided root filters, or b) if they are younger than "
    ++ "the provided min-age."

/-- The arguments. -/
def arguments : List Item :=
  [{ letter := none
     name := none
     placeholder := some "<ROOT_FILTERS>..."
     brief := "Semicolon-separated arguments for one invocation of \x60git rev-list\x60"
     paragraphs :=
       ["Semicolon-separated arguments for one invocation of \x60git rev-list\x60.",
        "The commits in the union of these invocations are used to find containers that are "
          ++ "referenced by source code. Ex: '--remotes=origin;--since=2~weeks~ago' or "
          ++ "'--tags;-n;1'. Options go before the root filters."] }]

/-- The meaning of a verbosity. -/
def meaning : Verbosity → String
  | .debug => "Debug output and above"
  | .info => "Progress messages and above"
  | .warning => "Warnings and errors (default)"
  | .error => "Errors only"
  | .critical => "Errors only"
  | .notSet => "Everything, including trace output"

/-- The option for the verbosity. -/
def verbosity : Item :=
  { Item.ofText (some 'v') "verbosity" (some "<VERBOSITY>")
      "Log level to emit to stderr. \x60RUST_LOG\x60 takes precedence when set" with
    choices := Verbosity.all.map fun verbosity => ⟨verbosity.name, meaning verbosity⟩
    default := some Verbosity.warning.name }

/-- The option for this page, which names the other one. -/
def help : Item :=
  { letter := some 'h'
    name := some "help"
    placeholder := none
    brief := "Print help (see more with '--help')"
    paragraphs := ["Print help (see a summary with '-h')"] }

/-- The options. -/
def options : List Item :=
  [.ofText (some 'p') "repo-path" (some "<REPO_PATH>") "Path to the repository to inspect",
   .ofText (some 'm') "min-age" (some "<MIN_AGE>")
     ("Minimum time, in days, to keep containers around even if they are not referenced by "
       ++ "the source code"),
   .ofText none "manifests" (some "<MANIFESTS>")
     "JSON file with container manifests to use instead of running an \x60az\x60 command",
   verbosity,
   .ofText (some 'c') "config" (some "<CONFIG>")
     ("Configuration file (default: \x60$IMGSWEEP_CONFIG\x60, then "
       ++ "\x60~/.imgsweep/config.toml\x60)"),
   .ofText none "registry" (some "<REGISTRY>") "Registry name, without \x60.azurecr.io\x60",
   .ofText none "repository" (some "<REPOSITORY>") "Repository inside the registry",
   .ofText none "tracked-path" (some "<TRACKED_PATH>")
     "Pathspec of the build configuration file to scan",
   .ofText none "max-parallel" (some "<MAX_PARALLEL>")
     "Maximum number of concurrent git invocations",
   .ofText none "dry-run" none "List the garbage manifests without deleting anything",
   help,
   .ofText (some 'V') "version" none "Print version"]

/-- How the program is called. -/
def usage (styled : Bool) : String :=
  heading styled "Usage:" ++ " " ++ literal styled "imgsweep" ++ " [OPTIONS] "
    ++ literal styled "--repo-path" ++ " <REPO_PATH> " ++ literal styled "--min-age"
    ++ " <MIN_AGE> <ROOT_FILTERS>..."

/-- Items under a heading. -/
def itemSection (full styled : Bool) (title : String) (items : List Item) : String :=
  let column := (items.map fun item => (item.usage false).length).foldl max 0 + 2
  let texts := items.map fun item =>
    if full then item.full styled else item.briefLine styled column
  heading styled title ++ "\n" ++ String.intercalate (if full then "\n\n" else "\n") texts

/-- The help page, in full or in short. -/
def page (full styled : Bool) : String :=
  String.intercalate "\n\n"
    [if full then description else summary,
     usage styled,
     itemSection full styled "Arguments:" arguments,
     itemSection full styled "Options:" options]
    ++ "\n"

/-- The version of the program. -/
def version : String := "imgsweep 0.1.0\n"

end ImageRetention.CommandLine.Help
