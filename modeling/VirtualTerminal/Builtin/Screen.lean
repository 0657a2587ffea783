import VirtualTerminal.Command.Body

/-!
# The screen

Commands that change what the screen shows or how it looks. A game is played by the host of the
session; its command only takes over the screen.
-/

namespace VirtualTerminal.Builtin

/-- Asks for an empty screen. -/
def clear : Command Body where
  name := "clear".toList
  description := "Clear the terminal".toList
  usage := "clear".toList
  category := .system
  aliases := ["cls".toList]
  body := .handler <| .doing fun _ d =>
    (.nothing, { d with shell := { d.shell with clearRequested := true } })

/-- Switches the look of the screen. -/
def crt : Command Body where
  name := "crt".toList
  description := "Toggle the CRT display effect".toList
  usage := "crt".toList
  category := .effects
  body := .handler <| .doing fun _ d =>
    let mode := d.shell.display.other
    let text := match mode with
      | .crt => "CRT mode enabled".toList
      | .normal => "CRT mode disabled".toList
    (.success [.colored .green text], { d with shell := { d.shell with display := mode } })

/-- Takes over the screen for a game, unless the screen has been taken over. -/
def snake : Command Body where
  name := "snake".toList
  description := "Play snake".toList
  usage := "snake".toList
  category := .games
  body := .handler <| .doing fun _ d =>
    match d.shell.takeover with
    | some active => (.error ("snake: ".toList ++ active ++ " is already running".toList), d)
    | none =>
      (.success [.colored .green "Starting snake...".toList,
        .colored .gray "Arrow keys to move, q to quit.".toList],
        { d with shell := { d.shell with takeover := some "snake".toList } })

end VirtualTerminal.Builtin
