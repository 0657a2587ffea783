import VirtualTerminal.Error

/-!
# Configuration

What a user can set for a session, with a default for every field, and the two rules that a
configuration has to meet.
-/

namespace VirtualTerminal

/-- How the prompt looks. -/
structure Prompt where
  user : Text := "guest".toList
  host : Text := "termfolio".toList
  symbol : Text := "$".toList
  deriving DecidableEq, Repr

/-- How much input is accepted. -/
structure Limits where
  /-- The most characters of a line. -/
  inputLength : Nat := 10000
  /-- The most positional arguments of a command. -/
  args : Nat := 100
  /-- The most characters of a token; longer ones are dropped. -/
  tokenLength : Nat := 1000
  /-- The most distinct flags and options of a command. -/
  options : Nat := 50
  /-- The most characters of the key in `--key=value`. -/
  keyLength : Nat := 100
  deriving DecidableEq, Repr

/-- How fast animations run. -/
structure Pace where
  framesPerSecond : Nat := 30
  /-- The least number of milliseconds between two frames. -/
  frameDelay : Nat := 1
  deriving DecidableEq, Repr

/-- The configuration of a session. -/
structure Config where
  prompt : Prompt := {}
  limits : Limits := {}
  pace : Pace := {}
  /-- The most history entries that are kept. -/
  historyLimit : Nat := 100
  home : Text := "/home/guest".toList
  deriving DecidableEq, Repr

/-- Refuses a configuration that no session can run with. -/
def Config.validate (c : Config) : Except Error Unit :=
  if c.home.head? ≠ some '/' then .error (.config (.relativeHome c.home))
  else if c.limits.inputLength = 0 then .error (.config .noInput)
  else .ok ()

end VirtualTerminal
