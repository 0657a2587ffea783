import VirtualTerminal.Command.Body

/-!
# Help

What the commands say about themselves.
-/

namespace VirtualTerminal.Builtin

/-- A line of a listing: a name and what it stands for. -/
def listingLine (c : CommandInfo) : Line :=
  .parts [⟨"  ".toList ++ Text.padRight 10 c.name, some .cyan⟩, ⟨c.description, none⟩]

/-- The visible commands of a category under its title, and a blank line; nothing if there are
none. -/
def listing (catalog : CommandTable Unit) (category : Category) : List Line :=
  match (catalog.ofCategory category).filter (!·.hidden) with
  | [] => []
  | visible =>
    .colored .yellow category.name.upperAscii ::
      visible.map (listingLine ·.toCommandInfo) ++ [.blank]

/-- What there is to know about a command. -/
def details (c : CommandInfo) : List Line :=
  [.parts [⟨c.name, some .cyan⟩, ⟨" - ".toList ++ c.description, none⟩],
    .plain ("usage: ".toList ++ c.usage),
    .plain ("category: ".toList ++ c.category.name)] ++
  if c.aliases = [] then [] else [.plain ("aliases: ".toList ++ Text.join ", ".toList c.aliases)]

/-- Lists the commands, or tells about one. -/
def help : Command Body where
  name := "help".toList
  description := "List available commands".toList
  usage := "help [command]".toList
  category := .system
  aliases := ["?".toList]
  body := .handler <| .showing fun c _ =>
    match c.invocation.args with
    | [] =>
      .success (c.catalog.categories.flatMap (listing c.catalog) ++
        [.colored .gray
          "Chain with &&, || and ;. Pipe with |. Type 'help <command>' for details.".toList])
    | name :: _ =>
      match c.catalog.get? name with
      | some found => .success (details found.toCommandInfo)
      | none => .error ("help: no such command: ".toList ++ name)

end VirtualTerminal.Builtin
