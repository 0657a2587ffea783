import VirtualTerminal.Command.Body

/-!
# What the shell remembers

The history of lines and the aliases of the session.
-/

namespace VirtualTerminal.Builtin

/-! ## History -/

/-- A line of the history with its number. -/
def historyLine (entry : Text × Nat) : Line :=
  .parts [⟨Text.padLeft 4 (Text.ofNat (entry.2 + 1)) ++ "  ".toList, some .gray⟩, ⟨entry.1, none⟩]

/-- Shows the history or empties it. -/
def history : Command Body where
  name := "history".toList
  description := "Show or clear command history".toList
  usage := "history [clear | -c]".toList
  category := .system
  body := .handler <| .doing fun c d =>
    if c.invocation.args.head? = some "clear".toList ∨ c.invocation.hasFlag "c".toList then
      (.success [.colored .green "History cleared".toList], { d with shell := d.shell.clearHistory })
    else (.success (d.shell.history.zipIdx.map historyLine), d)

/-! ## Aliases -/

/-- The line that defines an alias. -/
def aliasLine (name expansion : Text) : Line :=
  .plain ("alias ".toList ++ name ++ "='".toList ++ expansion ++ "'".toList)

/-- Defines an alias, or refuses to. -/
def defineAlias (name expansion : Text) (s : Shell) : Except Output Shell :=
  let name := Text.trim name
  if name = [] ∨ name.any isBlank then
    .error (.error ("alias: invalid name: '".toList ++ name ++ "'".toList))
  else if Text.trim expansion = [] then
    .error (.error ("alias: empty expansion for '".toList ++ name ++ "'".toList))
  else .ok (s.setAlias name expansion)

/-- Takes the arguments in turn: defines the aliases with a text after the equals sign and shows the
other ones. The first argument that is refused ends it; what was defined before stays. -/
def aliasArgs (shown : List Line) : List Text → Shell → Output × Shell
  | [], s => (.success shown, s)
  | arg :: rest, s =>
    match Text.splitOnce '=' arg with
    | some (name, expansion) =>
      match defineAlias name expansion s with
      | .ok s => aliasArgs shown rest s
      | .error output => (output, s)
    | none =>
      match s.alias? arg with
      | some expansion => aliasArgs (shown ++ [aliasLine arg expansion]) rest s
      | none => (.error ("alias: ".toList ++ arg ++ ": not found".toList), s)

/-- Lists, shows or defines aliases. -/
def aliasCommand : Command Body where
  name := "alias".toList
  description := "Define or list session aliases".toList
  usage := "alias [name='command ...']".toList
  category := .system
  body := .handler <| .doing fun c d =>
    match c.invocation.args, d.shell.aliases.entries with
    | [], [] => (.success [.colored .gray "No aliases defined".toList], d)
    | [], entries => (.success (entries.map fun (name, expansion) => aliasLine name expansion), d)
    | args, _ =>
      let (output, shell) := aliasArgs [] args d.shell
      (output, { d with shell := shell })

/-- Removes aliases in turn. The last name without an alias is reported. -/
def unaliasArgs (report : Output) : List Text → Shell → Output × Shell
  | [], s => (report, s)
  | name :: rest, s =>
    match s.alias? name with
    | some _ => unaliasArgs report rest (s.unsetAlias name)
    | none => unaliasArgs (.error ("unalias: ".toList ++ name ++ ": not found".toList)) rest s

/-- Removes aliases. -/
def unalias : Command Body where
  name := "unalias".toList
  description := "Remove a session alias".toList
  usage := "unalias <name>".toList
  category := .system
  body := .handler <| .doing fun c d =>
    match c.invocation.args with
    | [] => (.usage "unalias <name>".toList, d)
    | args =>
      let (output, shell) := unaliasArgs .nothing args d.shell
      (output, { d with shell := shell })

end VirtualTerminal.Builtin
