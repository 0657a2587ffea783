import VirtualTerminal.Config
import VirtualTerminal.Table

/-!
# Invocations

An invocation is what one command line asks for: a command name, positional arguments, flags and
options. A line that breaks a limit becomes an invocation of the reserved name `error`, whose only
argument gives the reason.
-/

namespace VirtualTerminal

/-- The value of an option: a bare flag has none. -/
inductive OptionValue where
  | flag
  | value (text : Text)
  deriving DecidableEq, Repr

/-- What one command line asks for. -/
structure Invocation where
  /-- The command name in lower case; empty if the line holds no command. -/
  command : Text := []
  args : List Text := []
  /-- The flags in the order they were given, one for each letter of a short group. -/
  flags : List Text := []
  options : Table OptionValue := .empty
  /-- The line itself. -/
  raw : Text := []
  deriving DecidableEq

namespace Invocation

/-- The reserved name that marks a refused line. -/
def refusedName : Text :=
  "error".toList

/-- The invocation that stands for a refused line. -/
def refused (raw reason : Text) : Invocation :=
  { command := refusedName, args := [reason], raw := raw }

/-- Whether the line held no command. -/
def isEmpty (i : Invocation) : Bool :=
  i.command.isEmpty

/-- Why the line was refused. -/
def refusal? (i : Invocation) : Option Text :=
  if i.command = refusedName then i.args.head? else none

/-- Whether a name was given as a flag and not overwritten by a value. -/
def hasFlag (i : Invocation) (name : Text) : Bool :=
  i.options.find? name = some .flag

/-- Whether any of the names was given as a flag or with a value. -/
def hasAny (i : Invocation) (names : List Text) : Bool :=
  names.any i.options.contains

/-- The value of an option. -/
def value? (i : Invocation) (name : Text) : Option Text :=
  match i.options.find? name with
  | some (.value text) => some text
  | _ => none

/-- Fails unless there are at least `count` positional arguments. -/
def requireArgs (i : Invocation) (count : Nat) : Except Error Unit :=
  if i.args.length < count then .error (.missingArguments count i.args.length) else .ok ()

/-- Fails unless every one of the names was given. -/
def requireOptions (i : Invocation) (names : List Text) : Except Error Unit :=
  match names.filter (!i.options.contains ·) with
  | [] => .ok ()
  | missing => .error (.missingOptions missing)

end Invocation

end VirtualTerminal
