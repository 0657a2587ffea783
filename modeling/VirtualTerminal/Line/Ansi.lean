import VirtualTerminal.Line

/-!
# Lines on a terminal

How a line is written to a terminal: styled text stands between an opening escape sequence and the
sequence that resets all styles. Where styled text holds a reset of its own, the style is opened
again after it.
-/

namespace VirtualTerminal.Line

/-- The escape sequence with the given parameters. -/
def sequence (parameters : Text) : Text :=
  ['\x1b', '['] ++ parameters ++ ['m']

/-- The escape sequence that resets all styles. -/
def reset : Text :=
  sequence ['0']

/-- A text with `opening` put after every reset in it. The next `skip` characters end a reset that
started before. -/
def reopenFrom (opening : Text) : (skip : Nat) → Text → Text
  | _, [] => []
  | skip + 1, c :: rest =>
    if skip = 0 then c :: (opening ++ reopenFrom opening 0 rest) else c :: reopenFrom opening skip rest
  | 0, c :: rest =>
    if reset.isPrefixOf (c :: rest) then c :: reopenFrom opening (reset.length - 1) rest
    else c :: reopenFrom opening 0 rest

/-- A text in the style with the given parameters, or as it is if colours are off. -/
def style (colors : Bool) (parameters text : Text) : Text :=
  if colors then sequence parameters ++ reopenFrom (sequence parameters) 0 text ++ reset else text

/-- The parameters that switch to a colour. -/
def colorParameters : Color → Text
  | .red => "31".toList
  | .green => "32".toList
  | .yellow => "33".toList
  | .blue => "34".toList
  | .magenta => "35".toList
  | .cyan => "36".toList
  | .white => "37".toList
  | .gray => "90".toList

/-- A run as it is written. -/
def paint (colors : Bool) (r : Run) : Text :=
  match r.color with
  | none => r.text
  | some c => style colors (colorParameters c) r.text

/-- A line as it is written: its runs, its link unless they show it already, and all in bold if it
repeats a command. -/
def render (colors : Bool) (l : Line) : Text :=
  let body := l.runs.flatMap (paint colors)
  let body :=
    match l.url with
    | none => body
    | some url =>
      if Text.hasInfix url body then body else body ++ ' ' :: style colors "2;4".toList url
  if l.isCommand then style colors "1".toList body else body

end VirtualTerminal.Line
