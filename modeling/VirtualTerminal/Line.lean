import VirtualTerminal.Text.Basic

/-!
# Output lines

A line shows one run of text, several runs with colours of their own, or nothing. Colours are for
the eye only; whether a command succeeded is told apart from them.
-/

namespace VirtualTerminal

/-- The colours of text. -/
inductive Color where
  | red
  | green
  | yellow
  | blue
  | magenta
  | cyan
  | white
  | gray
  deriving DecidableEq, Repr

namespace Color

/-- All colours. -/
def all : List Color :=
  [red, green, yellow, blue, magenta, cyan, white, gray]

/-- The name of a colour. -/
def name : Color → Text
  | red => "red".toList
  | green => "green".toList
  | yellow => "yellow".toList
  | blue => "blue".toList
  | magenta => "magenta".toList
  | cyan => "cyan".toList
  | white => "white".toList
  | gray => "gray".toList

/-- The colour with a name. -/
def ofName? (s : Text) : Option Color :=
  all.find? (·.name = s)

end Color

/-- A run of text in one colour. -/
structure Run where
  text : Text
  color : Option Color := none
  deriving DecidableEq, Repr

/-- What a line shows. -/
inductive Content where
  | text (run : Run)
  | parts (runs : List Run)
  | blank
  deriving DecidableEq, Repr

/-- A line of output. -/
structure Line where
  content : Content
  /-- The target of a line that is a link. -/
  url : Option Text := none
  /-- Whether the line repeats a prompt and what was typed after it. -/
  isCommand : Bool := false
  /-- A name for a style that renderers may know. -/
  styleClass : Option Text := none
  deriving DecidableEq, Repr

namespace Line

/-- A line of text without colour. -/
def plain (text : Text) : Line :=
  { content := .text { text := text } }

/-- A line of text in a colour. -/
def colored (color : Color) (text : Text) : Line :=
  { content := .text { text := text, color := some color } }

/-- A red line. -/
def error (text : Text) : Line :=
  colored .red text

/-- A line of several runs. -/
def parts (runs : List Run) : Line :=
  { content := .parts runs }

/-- A line without text. -/
def blank : Line :=
  { content := .blank }

/-- The runs of a line. -/
def runs (l : Line) : List Run :=
  match l.content with
  | .text run => [run]
  | .parts runs => runs
  | .blank => []

/-- The text of a line. -/
def text (l : Line) : Text :=
  l.runs.flatMap (·.text)

/-- Whether any run of a line has a colour. -/
def hasColor (l : Line) (color : Color) : Bool :=
  l.runs.any (·.color = some color)

/-- The lines of a text, without colour. -/
def ofText (s : Text) : List Line :=
  (Text.lines s).map plain

/-- The texts of lines, joined with line feeds. -/
def joinTexts (lines : List Line) : Text :=
  Text.join ['\n'] (lines.map text)

end Line

end VirtualTerminal
