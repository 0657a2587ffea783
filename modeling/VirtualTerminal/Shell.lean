import VirtualTerminal.Pattern
import VirtualTerminal.Table
import VirtualTerminal.Text.Lowercase

/-!
# The shell

What a session remembers between lines for the commands: the working directory, the history of
lines, the aliases, and what commands ask the host for.
-/

namespace VirtualTerminal

/-- How the terminal looks. -/
inductive DisplayMode where
  | normal
  | crt
  deriving DecidableEq, Repr

/-- The name of a display mode. -/
def DisplayMode.name : DisplayMode → Text
  | normal => "normal".toList
  | crt => "crt".toList

/-- The other display mode. -/
def DisplayMode.other : DisplayMode → DisplayMode
  | normal => crt
  | crt => normal

/-- What a session remembers between lines. -/
structure Shell where
  /-- The working directory. -/
  cwd : Text
  home : Text
  /-- The lines entered, the oldest first. -/
  history : List Text := []
  historyLimit : Nat
  /-- What each alias, in lower case, stands for. -/
  aliases : Table Text := .empty
  /-- What has taken over the whole screen. -/
  takeover : Option Text := none
  display : DisplayMode := .normal
  /-- Whether a command has asked for an empty screen. -/
  clearRequested : Bool := false
  deriving DecidableEq

namespace Shell

/-- The shell of a new session. -/
def new (home : Text) (historyLimit : Nat) : Shell :=
  { cwd := home, home := home, historyLimit := historyLimit }

/-! ## History -/

/-- The shell after a line was entered. Blanks around the line are dropped; a blank line and a line
equal to the last one are not kept, and the oldest lines go when there are too many. -/
def pushHistory (s : Shell) (line : Text) : Shell :=
  let line := Text.trim line
  if line = [] ∨ s.history.getLast? = some line then s
  else
    let history := s.history ++ [line]
    { s with history := history.drop (history.length - s.historyLimit) }

/-- The shell without history. -/
def clearHistory (s : Shell) : Shell :=
  { s with history := [] }

/-! ## Aliases -/

/-- The shell in which a name stands for a text, blanks around it dropped. -/
def setAlias (s : Shell) (name expansion : Text) : Shell :=
  { s with aliases := s.aliases.insert name.lower (Text.trim expansion) }

/-- The shell without an alias. -/
def unsetAlias (s : Shell) (name : Text) : Shell :=
  { s with aliases := s.aliases.erase name.lower }

/-- What a name stands for. -/
def alias? (s : Shell) (name : Text) : Option Text :=
  s.aliases.find? name.lower

/-- A piece of a line with its first word replaced by what it stands for. The replacement is not
looked at again. -/
def expandAlias (s : Shell) (piece : Text) : Text :=
  let (first, rest) := Text.firstWord (Text.trimStart piece)
  match s.alias? first with
  | some expansion => expansion ++ rest
  | none => piece

/-- The patterns that end a piece of a line. -/
def operators : List Pattern :=
  ["&&", "||", ";", "|"].map fun s => .literal s.toList

/-- A line from a position on, with the first words of its pieces replaced. -/
def expandPieces (s : Shell) (line : Text) (start : Nat) : List (Hit Pattern) → Text
  | [] => s.expandAlias (Text.slice line start line.length)
  | h :: rest =>
    s.expandAlias (Text.slice line start h.start) ++ Text.slice line h.start h.stop ++
      expandPieces s line h.stop rest

/-- A line with the first word of every piece replaced by what it stands for. -/
def expandLine (s : Shell) (line : Text) : Text :=
  if s.aliases.entries.isEmpty then line
  else s.expandPieces line 0 (Pattern.hits operators line)

end Shell

end VirtualTerminal
