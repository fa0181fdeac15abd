import ImageRetention.Log.Entry
import ImageRetention.Log.Pattern
import ImageRetention.Text.Utf8

/-
Which log entries are shown:

* `Directive`: a verbosity for the sources under a path;
* `Filter.parse?`: a filter from its text, directives separated by commas;
* `Filter.enables`: the most specific directive that speaks of an entry decides about it.
-/

namespace ImageRetention.Log

/-! ### Directives -/

/-- A verbosity for the sources under a path. -/
structure Directive where
  /-- The start of the source paths it speaks of; all sources if there is none. -/
  target : Option String
  /-- The fields an entry must have. -/
  fields : List String
  /-- Whether it speaks only of entries inside a named span, or with a field of a given
  value.  No entry of this program is inside a span, so such a directive enables nothing. -/
  spanOnly : Bool
  /-- The rank up to which entries are shown; 0 shows none. -/
  rank : Nat
  deriving DecidableEq, Repr

/-- The rank that shows everything. -/
def Directive.allRank : Nat := 5

/-- The rank a level name or number stands for, in any case of letters. -/
def rankOfText? (s : List Char) : Option Nat :=
  match String.ofList (s.map Char.toLower) with
  | "off" => some 0
  | "error" => some 1
  | "warn" => some 2
  | "info" => some 3
  | "debug" => some 4
  | "trace" => some 5
  | _ => (Text.natural? s).filter (· ≤ Directive.allRank)

namespace Directive

/-! ### Directives as texts

A directive is a rank, a path, a path and a rank, or one of these with a span.  The places
where its parts start and end are looked for in the text without the blanks at its ends; they
are counted in bytes, and count in the whole text.  So blanks at the end belong to the last
part, and blanks in front move the ends of all parts. -/

/-- A directive's text, whole and without the blanks at its ends. -/
structure Writing where
  whole : List UInt8
  inner : List UInt8

/-- The writing of a text. -/
def Writing.ofText (s : List Char) : Writing :=
  ⟨Text.Utf8.encode s, Text.Utf8.encode (Text.trim s)⟩

/-- The part of the whole text between two places; none if it cuts a character. -/
def Writing.part? (writing : Writing) (start stop : Nat) : Option (List Char) :=
  Text.Utf8.decode? ((writing.whole.take stop).drop start)

/-- The whole text from a place on. -/
def Writing.after? (writing : Writing) (start : Nat) : Option (List Char) :=
  writing.part? start writing.whole.length

/-- Whether a character is at a place. -/
def Writing.has (writing : Writing) (place : Nat) (c : Char) : Bool :=
  writing.inner[place]? == some c.toUInt8

/-- The first place from some place on where there is one of two characters. -/
def Writing.find? (writing : Writing) (start : Nat) (c d : Char) : Option Nat :=
  ((writing.inner.drop start).findIdx? fun b => b == c.toUInt8 || b == d.toUInt8).map
    (start + ·)

/-- The rank from a place on; an empty one shows everything. -/
def rankAfter? (writing : Writing) (start : Nat) : Option Nat := do
  let text ← writing.after? start
  if text.isEmpty then some allRank else rankOfText? text

/-- What may follow a span: nothing, or an equals sign and a rank. -/
def rankAfterSpan? (writing : Writing) (start : Nat) : Option Nat :=
  if start = writing.inner.length then some allRank
  else if writing.has start '=' then rankAfter? writing (start + 1)
  else none

/-- Whether a text is a number with a plus, which is a value and no pattern. -/
def isSignedNumber (s : List Char) : Bool :=
  match s with
  | '+' :: rest =>
    let word := String.ofList (rest.map Char.toLower)
    let (mantissa, power) := rest.span fun c => c != 'e' && c != 'E'
    let (whole, fraction) := mantissa.span Char.isDigit
    let digits := whole ++ fraction.drop 1
    word == "inf" || word == "infinity" || word == "nan"
      || !digits.isEmpty && digits.all Char.isDigit && fraction.head?.all (· == '.')
        && (power.isEmpty || (Text.integer? (power.drop 1)).isSome)
  | _ => false

/-- A field: its name, and whether it must have a value.  The value is a number or a pattern,
up to a second equals sign. -/
def field? (s : List Char) : Option (String × Bool) :=
  let (name, rest) := s.span (· != '=')
  if s.isEmpty then none
  else if rest.isEmpty then some (String.ofList name, false)
  else
    let value := (rest.drop 1).takeWhile (· != '=')
    if isSignedNumber value || Pattern.isWellFormed value then some (String.ofList name, true)
    else none

/-- A directive with a span, from after its opening bracket: a name, or a field in braces, or
both. -/
def span? (writing : Writing) (target : Option String) (start : Nat) : Option Directive := do
  let stop ← writing.find? start ']' '\x7b'
  let name ← writing.part? start stop
  if writing.has stop ']' then
    some ⟨target, [], true, ← rankAfterSpan? writing (stop + 1)⟩
  else
    let last ← writing.find? (stop + 1) '\x7d' '\x7d'
    let (field, valued) ← field? (← writing.part? (stop + 1) last)
    if writing.has (last + 1) ']' then
      some ⟨target, [field], !name.isEmpty || valued, ← rankAfterSpan? writing (last + 2)⟩
    else none

/-- A directive from its text. -/
def parse? (s : List Char) : Option Directive :=
  let writing := Writing.ofText s
  match Text.trim s with
  | [] => none
  | '[' :: _ => span? writing none 1
  | c :: _ =>
    if !(Text.isAlphanumeric c || c == '-' || c == ':' || c == '_') then none
    else match writing.find? 0 '=' '[' with
      | none =>
        match rankOfText? s with
        | some rank => some ⟨none, [], false, rank⟩
        | none => some ⟨some (String.ofList s), [], false, allRank⟩
      | some stop => do
        let target := String.ofList (← writing.part? 0 stop)
        if writing.has stop '=' then
          some ⟨some target, [], false, ← rankAfter? writing (stop + 1)⟩
        else span? writing (some target) (stop + 1)

/-! ### What a directive decides -/

/-- Whether a directive speaks of the entries of a source. -/
def speaksOf (directive : Directive) (source : Source) : Bool :=
  !directive.spanOnly
    && (match directive.target with
      | none => true
      | some target => target.toList.isPrefixOf source.path.toList)
    && directive.fields.all (· == "message")

/-- How specific a directive is: first by the length of its path, then by its fields. -/
def specificity (directive : Directive) : Nat × Nat :=
  ((match directive.target with
    | none => 0
    | some target => target.utf8ByteSize + 1), directive.fields.length)

/-- Whether a directive is at least as specific as another one. -/
def atLeast (directive other : Directive) : Bool :=
  let (a, b) := directive.specificity
  let (c, d) := other.specificity
  c < a || (a == c && d ≤ b)

end Directive

/-! ### Filters -/

/-- A filter is the directives of its text. -/
structure Filter where
  directives : List Directive
  deriving DecidableEq, Repr

namespace Filter

/-- A filter with one rank for all sources. -/
def ofRank (rank : Nat) : Filter := ⟨[⟨none, [], false, rank⟩]⟩

/-- A filter from its text, unless a directive in it is malformed.  A text without directives
shows errors only. -/
def parse? (text : String) : Option Filter :=
  let parts := (Text.split (· == ',') text.toList).filter fun part => !part.isEmpty
  match parts with
  | [] => some (ofRank Level.error.rank)
  | parts => (parts.mapM Directive.parse?).map Filter.mk

/-- The directive that decides about a source: the most specific one, and of equally specific
ones the last. -/
def deciding? (filter : Filter) (source : Source) : Option Directive :=
  (filter.directives.filter (·.speaksOf source)).foldl
    (fun best directive => match best with
      | none => some directive
      | some other => if directive.atLeast other then some directive else best)
    none

/-- Whether a filter shows an entry. -/
def enables (filter : Filter) (entry : Entry) : Bool :=
  match filter.deciding? entry.source with
  | none => false
  | some directive => entry.level.rank ≤ directive.rank

end Filter

end ImageRetention.Log
