import VirtualTerminal.Command.Body
import VirtualTerminal.Text.Utf8

/-!
# Visitor and session

Who uses the terminal, who is behind it, and how the session is doing.
-/

namespace VirtualTerminal.Builtin

/-- Prints the user of the prompt. -/
def whoami : Command Body where
  name := "whoami".toList
  description := "Print the current user".toList
  usage := "whoami".toList
  category := .info
  body := .handler <| .showing fun c _ => .text c.prompt.user

/-- Refuses to run anything as root. -/
def sudoCommand : Command Body where
  name := "sudo".toList
  description := "Run a command as root".toList
  usage := "sudo <command>".toList
  category := .system
  hidden := true
  body := .handler <| .showing fun c _ =>
    .error (c.prompt.user ++ " is not in the sudoers file. This incident will be reported.".toList)

/-! ## The about page -/

/-- Labels and targets of the links on the about page. -/
def links : List (Text × Text) :=
  [("github".toList, "https://github.com/example".toList),
    ("email".toList, "mailto:hello@example.com".toList)]

/-- A link with its label. -/
def linkLine (label url : Text) : Line :=
  { content := .parts [⟨Text.padRight 8 label, some .yellow⟩, ⟨url, some .blue⟩]
    url := some url
    styleClass := some "link".toList }

/-- The text of the about page, which is kept in a file of the home directory. -/
def aboutText (d : Desk) : List Line :=
  match d.files.read (Path.join d.shell.home "about.txt".toList) with
  | .ok bytes => Line.ofText (Text.decodeLossy bytes)
  | .error _ => [.colored .gray "(about.txt has gone missing)".toList]

/-- Shows the about page. -/
def about : Command Body where
  name := "about".toList
  description := "Who is behind this terminal".toList
  usage := "about".toList
  category := .info
  aliases := ["bio".toList]
  body := .handler <| .showing fun c d =>
    .success <|
      [.parts [⟨c.prompt.user, some .green⟩, ⟨"@".toList, none⟩, ⟨c.prompt.host, some .cyan⟩],
        .blank] ++
      aboutText d ++ [.blank] ++ links.map fun (label, url) => linkLine label url

/-! ## Status -/

/-- A time in whole seconds as minutes and seconds. -/
def minutesAndSeconds (seconds : Nat) : Text :=
  Text.ofNat (seconds / 60) ++ "m ".toList ++ Text.ofNat (seconds % 60) ++ ['s']

/-- What the status says, with a label for each value. -/
def statusRows (c : Context) (s : Shell) : List (String × Text) :=
  [("uptime", minutesAndSeconds (c.now / 1000)),
    ("commands", Text.ofNat c.catalog.size),
    ("animations", Text.ofNat c.animations),
    ("history", Text.ofNat s.history.length),
    ("cwd", Path.display s.cwd s.home),
    ("display", s.display.name),
    ("takeover", s.takeover.getD "none".toList)]

/-- Shows the status of the session. -/
def status : Command Body where
  name := "status".toList
  description := "Show session status".toList
  usage := "status".toList
  category := .services
  body := .handler <| .showing fun c d =>
    .success <|
      .parts [⟨"*".toList, some .green⟩, ⟨" terminal online".toList, none⟩] ::
      (statusRows c d.shell).map fun (label, value) =>
        .parts [⟨"  ".toList ++ Text.padRight 12 label.toList, some .gray⟩, ⟨value, none⟩]

end VirtualTerminal.Builtin
