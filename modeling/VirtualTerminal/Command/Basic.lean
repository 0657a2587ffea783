import VirtualTerminal.Error
import VirtualTerminal.Text.Blank
import VirtualTerminal.Text.Lowercase

/-!
# Commands

A command has a name, a description and a body that says what it does. Most commands are made from a
definition, which is checked and brought into normal form; others are written down as they are.
-/

namespace VirtualTerminal

/-- The groups that commands are listed in. -/
inductive Category where
  | system
  | info
  | effects
  | services
  | games
  | devtools
  | filesystem
  deriving DecidableEq, Repr

namespace Category

/-- All categories, in the order of a listing. -/
def all : List Category :=
  [system, info, effects, services, games, devtools, filesystem]

/-- The name of a category. -/
def name : Category → Text
  | system => "system".toList
  | info => "info".toList
  | effects => "effects".toList
  | services => "services".toList
  | games => "games".toList
  | devtools => "devtools".toList
  | filesystem => "filesystem".toList

/-- The category with a name. Case and the blanks around it are ignored. -/
def ofText (s : Text) : Except Error Category :=
  match all.find? (·.name = (Text.trim s).lower) with
  | some c => .ok c
  | none => .error (.definition (.unknownCategory s))

end Category

/-- What can be said about a command without running it. -/
structure CommandInfo where
  name : Text
  description : Text
  usage : Text
  category : Category
  aliases : List Text := []
  /-- Whether the command is left out of listings. -/
  hidden : Bool := false
  deriving DecidableEq, Repr

/-- A command, whose body is of a type `β`. -/
structure Command (β : Type u) extends CommandInfo where
  body : β

namespace Command

/-- The form of a name or an alias that look-ups use: in lower case, without blanks around it. -/
def normalName (s : Text) : Text :=
  (Text.trim s).lower

/-- The aliases of the command `name` in the form that look-ups use: none of them empty or `name`
itself, each of them once. -/
def normalizeAliases (name : Text) (aliases : List Text) : List Text :=
  aliases.foldl
    (fun kept s =>
      let a := normalName s
      if a = [] ∨ a = name ∨ a ∈ kept then kept else kept ++ [a])
    []

/-- A command with another body. -/
def withBody (c : Command α) (body : β) : Command β :=
  { c.toCommandInfo with body := body }

end Command

/-- The parts that a command is made from. -/
structure Definition (β : Type u) where
  name : Text
  description : Text := []
  usage : Option Text := none
  category : Option Category := none
  aliases : List Text := []
  hidden : Bool := false
  body : Option β := none

namespace Definition

/-- The command that a definition describes. Its usage is its name if nothing else is given. -/
def build (d : Definition β) : Except Error (Command β) :=
  let name := Command.normalName d.name
  if name = [] then .error (.definition .noName)
  else if Text.trim d.description = [] then .error (.definition (.noDescription name))
  else
    match d.category, d.body with
    | none, _ => .error (.definition (.noCategory name))
    | some _, none => .error (.definition (.noHandler name))
    | some category, some body =>
      .ok
        { name := name
          description := d.description
          usage := d.usage.getD name
          category := category
          aliases := Command.normalizeAliases name d.aliases
          hidden := d.hidden
          body := body }

end Definition

end VirtualTerminal
