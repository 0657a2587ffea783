import VirtualTerminal.Line

/-!
# Outputs

What a command gives back: the lines it prints, and whether it succeeded.
-/

namespace VirtualTerminal

/-- Whether a command did what it was asked for. -/
inductive Status where
  | success
  | failure
  deriving DecidableEq, Repr

/-- The lines that a command prints, and whether it succeeded. -/
structure Output where
  lines : List Line := []
  status : Status := .success
  deriving DecidableEq, Repr

namespace Output

/-- A success that prints lines. -/
def success (lines : List Line) : Output :=
  { lines := lines }

/-- A success that prints the lines of a text. -/
def text (s : Text) : Output :=
  success (Line.ofText s)

/-- A failure that prints lines. -/
def failure (lines : List Line) : Output :=
  { lines := lines, status := .failure }

/-- A failure that prints one red line. -/
def error (message : Text) : Output :=
  failure [Line.error message]

/-- The output that prints nothing. -/
def nothing : Output :=
  {}

/-- Whether the output is that of a success. -/
def isSuccess (o : Output) : Bool :=
  o.status = .success

end Output

end VirtualTerminal
