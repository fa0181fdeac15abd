/-
Terminal styles:

* `Style`: how a piece of text is set off on a terminal, by the parameters of its control
  sequence;
* `Style.resume`: a text in which the style goes on after each sequence that ends all styles;
* `Style.paint`: a text in a style, or as it is where styles are off.
-/

namespace ImageRetention.Text

/-- How a piece of text is set off: the parameters of the control sequence that starts it. -/
structure Style where
  parameters : String
  deriving DecidableEq, Repr

namespace Style

def red : Style := ⟨"31"⟩

def green : Style := ⟨"32"⟩

def yellow : Style := ⟨"33"⟩

def blue : Style := ⟨"34"⟩

def purple : Style := ⟨"35"⟩

def cyan : Style := ⟨"36"⟩

def bold : Style := ⟨"1"⟩

def underlined : Style := ⟨"4"⟩

def boldRed : Style := ⟨"1;31"⟩

def boldGreen : Style := ⟨"1;32"⟩

/-- The control sequence that starts a style. -/
def start (style : Style) : String :=
  "\x1b[" ++ style.parameters ++ "m"

/-- The control sequence that ends all styles. -/
def reset : String := "\x1b[0m"

/-- A text in which the style starts again after each sequence that ends all styles, so that
it holds up to the end of the text. -/
def resume (style : Style) : List Char → List Char
  | '\x1b' :: '[' :: '0' :: 'm' :: rest => reset.toList ++ style.start.toList ++ resume style rest
  | c :: rest => c :: resume style rest
  | [] => []

/-- A text between the control sequences that start and end a style, if styles are on. -/
def paint (style : Style) (on : Bool) (text : String) : String :=
  if on then style.start ++ String.ofList (style.resume text.toList) ++ reset else text

end Style

end ImageRetention.Text
