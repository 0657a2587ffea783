import VirtualTerminal.FileTree
import VirtualTerminal.Text.Utf8

/-!
# The first tree

The directories and files that a new session starts with, for a given home directory.
-/

namespace VirtualTerminal.Seed

/-- The paths that lead through some components, starting at `above`. -/
def pathsThrough (above : Text) : List Text → List Text
  | [] => []
  | part :: rest =>
    let path := above ++ '/' :: part
    path :: pathsThrough path rest

/-- The paths from the first component on down to a whole path. -/
def ancestors (path : Text) : List Text :=
  pathsThrough [] (Path.components path)

/-- The directories: the ones that lead to the home directory come first. -/
def directories (home : Text) : List Text :=
  ancestors home ++
    ["/etc".toList, "/tmp".toList, home ++ "/projects".toList,
      home ++ "/projects/termfolio".toList, home ++ "/notes".toList]

/-- The message of the day. -/
def motd : Text :=
  "Welcome to termfolio. Type 'help' to see what this terminal can do.\n".toList

/-- The introduction in the home directory. -/
def readme : Text :=
  ("# Hello, visitor\n\n" ++
    "This is a small terminal living inside a portfolio page.\n" ++
    "Try `ls`, `cat about.txt`, or `help`.\n" ++
    "Pipes and chains work too: `cat about.txt | grep Rust && echo found`.\n").toList

/-- Who is behind the terminal. -/
def about : Text :=
  ("I build tools, parsers and the occasional toy terminal.\n" ++
    "Favourite languages: Rust, TypeScript, and whatever the problem needs.\n").toList

/-- How to get in touch. -/
def contact : Text :=
  "email:  hello@example.com\ngithub: https://github.com/example\n".toList

/-- The introduction of the project. -/
def projectReadme : Text :=
  ("termfolio: a command interpreter with quoting, pipes, chains,\n" ++
    "a command registry and animated output.\n").toList

/-- Ideas for later. -/
def ideas : Text :=
  "- snake high score table\n- a tiny text adventure\n- theme switcher\n".toList

/-- What is still to be done. -/
def todo : Text :=
  "write more commands\nfix the kettle\n".toList

/-- The files with their texts. -/
def files (home : Text) : List (Text × Text) :=
  [("/etc/motd".toList, motd), (home ++ "/README.md".toList, readme),
    (home ++ "/about.txt".toList, about), (home ++ "/contact.txt".toList, contact),
    (home ++ "/projects/termfolio/README.md".toList, projectReadme),
    (home ++ "/projects/ideas.txt".toList, ideas), (home ++ "/notes/todo.txt".toList, todo)]

/-- Directories and files in the order in which they are put into the tree; a directory has no
text. -/
def entries (home : Text) : List (Text × Option Text) :=
  (directories home).map (·, none) ++ (files home).map fun (path, text) => (path, some text)

/-- The tree for a home directory. -/
def tree (home : Text) : FileTree :=
  ⟨(entries home).foldl (fun nodes (path, text) =>
    nodes.insert path (match text with
      | none => .dir
      | some s => .file (Text.encode s))) FileTree.empty.nodes⟩

end VirtualTerminal.Seed
