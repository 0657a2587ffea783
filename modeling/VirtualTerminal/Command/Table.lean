import VirtualTerminal.Command.Basic
import VirtualTerminal.Table

/-!
# Tables of commands

A table finds commands by their names and aliases and lists them by category. Registering a command
replaces the one of the same name, but takes no alias away from another command.
-/

namespace VirtualTerminal

/-- A table of commands with bodies of a type `β`. -/
structure CommandTable (β : Type u) where
  /-- The commands by name, in the form that look-ups use. -/
  commands : Table (Command β) := .empty
  /-- The name of the command that each alias stands for. -/
  aliases : Table Text := .empty
  /-- The commands in the order in which they were registered. -/
  listed : List (Command β) := []

namespace CommandTable

variable {β : Type u}

/-! ## Registering -/

/-- Drops the aliases of a command, and the listed commands of its name. Listed names are compared
as they were given, but for the case of ASCII letters. -/
def unlink (t : CommandTable β) (name : Text) : CommandTable β :=
  { t with
    aliases := t.aliases.filter fun _ owner => owner ≠ name
    listed := t.listed.filter fun c => c.name.lowerAscii ≠ name.lowerAscii }

/-- The first of some aliases of the command `name` that another command has. -/
def taken? (t : CommandTable β) (name : Text) (aliases : List Text) : Option Text :=
  aliases.find? fun a => (t.aliases.find? a).any (· ≠ name)

/-- The table with one more command. -/
def register (t : CommandTable β) (c : Command β) : Except Error (CommandTable β) :=
  let name := Command.normalName c.name
  let aliases := Command.normalizeAliases name c.aliases
  if name = [] then .error (.definition .noName)
  else
    match t.taken? name aliases with
    | some a => .error (.aliasTaken a)
    | none =>
      let t := if t.commands.contains name then t.unlink name else t
      .ok
        { commands := t.commands.insert name c
          aliases := aliases.foldl (fun s a => s.insert a name) t.aliases
          listed := t.listed ++ [c] }

/-- Registers commands up to the first that is refused; the ones before it stay. -/
def registerMany : List (Command β) → CommandTable β → Except Error Unit × CommandTable β
  | [], t => (.ok (), t)
  | c :: rest, t =>
    match t.register c with
    | .ok t => registerMany rest t
    | .error e => (.error e, t)

/-! ## Look-ups -/

/-- The command with a name or an alias. -/
def get? (t : CommandTable β) (name : Text) : Option (Command β) :=
  (t.commands.find? name.lower).orElse fun _ =>
    (t.aliases.find? name.lower).bind t.commands.find?

/-- Whether a name is that of a command or an alias. -/
def has (t : CommandTable β) (name : Text) : Bool :=
  t.commands.contains name.lower || t.aliases.contains name.lower

/-- The name of the command that an alias stands for. -/
def resolveAlias? (t : CommandTable β) (name : Text) : Option Text :=
  t.aliases.find? name.lower

/-- The number of commands. -/
def size (t : CommandTable β) : Nat :=
  t.commands.size

/-! ## Listings -/

/-- The commands of a category, in the order in which they were registered. -/
def ofCategory (t : CommandTable β) (category : Category) : List (Command β) :=
  t.listed.filter (·.category = category)

/-- The categories that have a command. -/
def categories (t : CommandTable β) : List Category :=
  Category.all.filter fun category => !(t.ofCategory category).isEmpty

/-- The names of all commands, in increasing order. -/
def names (t : CommandTable β) : List Text :=
  t.commands.keys

/-- Texts in increasing order. -/
def sorted (names : List Text) : List Text :=
  names.mergeSort fun a b => !(b < a : Bool)

/-- The names and aliases of all commands, in increasing order. -/
def allNames (t : CommandTable β) : List Text :=
  sorted (t.commands.keys ++ t.aliases.keys)

/-- Whether a name is that of a command that listings show. -/
def isVisible (t : CommandTable β) (name : Text) : Bool :=
  (t.commands.find? name).any (!·.hidden)

/-- The names and aliases of the commands that listings show, in increasing order. -/
def visibleNames (t : CommandTable β) : List Text :=
  sorted (t.commands.keys.filter t.isVisible ++ (t.aliases.filter fun _ name => t.isVisible name).keys)

/-- The table without what its commands do. -/
def catalog (t : CommandTable β) : CommandTable Unit :=
  { commands := t.commands.map (·.withBody ())
    aliases := t.aliases
    listed := t.listed.map (·.withBody ()) }

end CommandTable

end VirtualTerminal
