import VirtualTerminal.Builtin.Animations
import VirtualTerminal.Builtin.Files
import VirtualTerminal.Builtin.Help
import VirtualTerminal.Builtin.Memory
import VirtualTerminal.Builtin.Screen
import VirtualTerminal.Builtin.TextTools
import VirtualTerminal.Builtin.Visitor

/-!
# The built-in commands
-/

namespace VirtualTerminal.Builtin

/-- All built-in commands, in the order in which they are listed within their categories. -/
def all : List (Command Body) :=
  [help, clear, echo, history, aliasCommand, unalias, sudoCommand,
    whoami, about,
    matrix, spinner, crt,
    status,
    snake,
    base64, wc, grep,
    ls, cd, pwd, cat, mkdir, touch, rm, tree]

/-- The table of the built-in commands. -/
def table : CommandTable Body :=
  (CommandTable.registerMany all {}).2

end VirtualTerminal.Builtin
