import VirtualTerminal.Command.Body
import VirtualTerminal.Text.Utf8

/-!
# Files

Looking at the files of the session and changing them. Paths are taken from the working directory.
-/

namespace VirtualTerminal.Builtin

/-- The path that a typed path means. -/
def resolve (d : Desk) (typed : Text) : Text :=
  Path.resolve d.shell.cwd typed d.shell.home

/-- The first argument, or else the working directory. -/
def target (i : Invocation) : Text :=
  i.args.head?.getD ['.']

/-- An entry of a directory, as it is shown. -/
def entryRun (e : DirEntry) : Run :=
  if e.isDir then ⟨e.name ++ ['/'], some .blue⟩ else ⟨e.name, none⟩

/-- A failure that reports errors, one a line; a success if there are none. -/
def reporting (errors : List Text) : Output :=
  if errors = [] then .nothing else .failure (errors.map .error)

/-! ## Listing -/

/-- What a listing of a path shows: the entries of a directory, or a file itself. -/
def entriesAt (t : FileTree) (path : Text) : Except FileError (List DirEntry) :=
  match t.stat path with
  | .error e => .error e
  | .ok (.file bytes) => .ok [⟨((Text.split '/' path).getLast?).getD [], false, bytes.length⟩]
  | .ok .dir => t.list path

/-- An entry with its kind and its size. -/
def longLine (e : DirEntry) : Line :=
  .parts [⟨(if e.isDir then 'd' else '-') :: ' ' :: Text.padLeft 8 (Text.ofNat e.size) ++
    "  ".toList, some .gray⟩, entryRun e]

/-- Entries side by side. -/
def shortLines : List DirEntry → List Line
  | [] => []
  | entries => [.parts (entries.flatMap fun e => [entryRun e, ⟨"  ".toList, none⟩])]

/-- Lists a directory. Names that start with a dot are left out unless all are asked for. -/
def ls : Command Body where
  name := "ls".toList
  description := "List directory contents".toList
  usage := "ls [-a] [-l] [path]".toList
  category := .filesystem
  aliases := ["dir".toList, "ll".toList]
  body := .handler <| .showing fun c d =>
    let i := c.invocation
    match entriesAt d.files (resolve d (target i)) with
    | .error _ =>
      .error ("ls: cannot access '".toList ++ target i ++ "': No such file or directory".toList)
    | .ok entries =>
      let shown := entries.filter fun e => i.hasFlag "a".toList || e.name.head? ≠ some '.'
      .success <|
        if i.hasFlag "l".toList ∨ i.command = "ll".toList then shown.map longLine
        else shortLines shown

/-! ## The working directory -/

/-- Changes the working directory, to the home directory if no other is named. -/
def cd : Command Body where
  name := "cd".toList
  description := "Change working directory".toList
  usage := "cd [path]".toList
  category := .filesystem
  body := .handler <| .doing fun c d =>
    match c.invocation.args with
    | [] => (.nothing, { d with shell := { d.shell with cwd := d.shell.home } })
    | typed :: _ =>
      let path := resolve d typed
      match d.files.stat path with
      | .ok .dir => (.nothing, { d with shell := { d.shell with cwd := path } })
      | .ok (.file _) => (.error ("cd: not a directory: ".toList ++ typed), d)
      | .error _ => (.error ("cd: no such file or directory: ".toList ++ typed), d)

/-- Prints the working directory. -/
def pwd : Command Body where
  name := "pwd".toList
  description := "Print working directory".toList
  usage := "pwd".toList
  category := .filesystem
  body := .handler <| .showing fun _ d => .text d.shell.cwd

/-! ## Files -/

/-- The lines of a file, or the line that says why there are none. -/
def fileLines (d : Desk) (typed : Text) : Except Line (List Line) :=
  let path := resolve d typed
  if d.files.isDir path then .error (.error ("cat: ".toList ++ typed ++ ": Is a directory".toList))
  else
    match d.files.read path with
    | .ok bytes => .ok (Line.ofText (Text.decodeLossy bytes))
    | .error _ => .error (.error ("cat: ".toList ++ typed ++ ": No such file or directory".toList))

/-- Prints files one after the other. A file that cannot be printed makes it a failure. -/
def cat : Command Body where
  name := "cat".toList
  description := "Print file contents".toList
  usage := "cat <file...>".toList
  category := .filesystem
  body := .handler <| .showing fun c d =>
    match c.invocation.args.map (fileLines d) with
    | [] => .usage "cat <file...>".toList
    | results =>
      { lines := results.flatMap fun
          | .ok lines => lines
          | .error line => [line]
        status := if results.all (·.isOk) then .success else .failure }

/-- The error of a new directory that cannot be made. -/
def mkdirError (typed : Text) (reason : String) : Text :=
  "mkdir: cannot create directory '".toList ++ typed ++ "': ".toList ++ reason.toList

/-- Makes a directory; `parents` allows those above it to be missing, and it to be there. -/
def mkdirOne (parents : Bool) (path typed : Text) (t : FileTree) : List Text × FileTree :=
  if t.holds path then
    (if parents && t.isDir path then [] else [mkdirError typed "File exists"], t)
  else if !parents && !t.isDir (Path.resolve path "..".toList Path.root) then
    ([mkdirError typed "No such file or directory"], t)
  else
    match t.makeDir path with
    | .ok t => ([], t)
    | .error e => (["mkdir: ".toList ++ (Error.files e).message], t)

/-- Applies a change to the files for each argument in turn and reports the errors. -/
def changing (change : (path typed : Text) → FileTree → List Text × FileTree) (args : List Text)
    (d : Desk) : List Text × FileTree :=
  args.foldl
    (fun (errors, t) typed =>
      let (more, t) := change (resolve d typed) typed t
      (errors ++ more, t))
    ([], d.files)

/-- Makes directories. -/
def mkdir : Command Body where
  name := "mkdir".toList
  description := "Create directories".toList
  usage := "mkdir [-p] <dir...>".toList
  category := .filesystem
  body := .handler <| .doing fun c d =>
    match c.invocation.args with
    | [] => (.usage "mkdir [-p] <dir...>".toList, d)
    | args =>
      let (errors, t) := changing (mkdirOne (c.invocation.hasFlag "p".toList)) args d
      (reporting errors, { d with files := t })

/-- Makes an empty file where nothing is. -/
def touchOne (path typed : Text) (t : FileTree) : List Text × FileTree :=
  if t.holds path then ([], t)
  else
    match t.write path [] with
    | .ok t => ([], t)
    | .error _ =>
      (["touch: cannot touch '".toList ++ typed ++ "': No such file or directory".toList], t)

/-- Makes empty files. -/
def touch : Command Body where
  name := "touch".toList
  description := "Create empty files".toList
  usage := "touch <file...>".toList
  category := .filesystem
  body := .handler <| .doing fun c d =>
    match c.invocation.args with
    | [] => (.usage "touch <file...>".toList, d)
    | args =>
      let (errors, t) := changing touchOne args d
      (reporting errors, { d with files := t })

/-! ## Removing -/

/-- The error of something that cannot be removed. -/
def rmError (typed : Text) (reason : String) : Text :=
  "rm: cannot remove '".toList ++ typed ++ "': ".toList ++ reason.toList

/-- Removes a file, or a directory with all beneath it if `recursive`; `force` allows it to be
missing. -/
def rmOne (force recursive : Bool) (path typed : Text) (t : FileTree) : List Text × FileTree :=
  if path = Path.root then (["rm: refusing to remove '/'".toList], t)
  else if !t.holds path then
    (if force then [] else [rmError typed "No such file or directory"], t)
  else if t.isDir path && !recursive then ([rmError typed "Is a directory"], t)
  else
    match if t.isDir path then t.removeAll path else t.attempt (t.remove path) with
    | (.ok (), t) => ([], t)
    | (.error e, t) => (["rm: ".toList ++ (Error.files e).message], t)

/-- The desk whose shell is at home if its working directory is gone. -/
def leaveRemoved (d : Desk) : Desk :=
  if d.shell.cwd ≠ Path.root ∧ !d.files.isDir d.shell.cwd then
    { d with shell := { d.shell with cwd := d.shell.home } }
  else d

/-- Removes files and directories. -/
def rm : Command Body where
  name := "rm".toList
  description := "Remove files or directories".toList
  usage := "rm [-r] [-f] <path...>".toList
  category := .filesystem
  body := .handler <| .doing fun c d =>
    let i := c.invocation
    let force := i.hasFlag "f".toList
    match i.args with
    | [] => (if force then .nothing else .usage "rm [-r] [-f] <path...>".toList, d)
    | args =>
      let recursive := i.hasFlag "r".toList || i.hasFlag "R".toList
      let (errors, t) := changing (rmOne force recursive) args d
      (reporting errors, leaveRemoved { d with files := t })

/-! ## Trees -/

/-- Numbers of directories and files. -/
structure TreeCounts where
  dirs : Nat := 0
  files : Nat := 0
  deriving DecidableEq, Repr

/-- The counts with one more entry. -/
def TreeCounts.add (n : TreeCounts) (e : DirEntry) : TreeCounts :=
  if e.isDir then { n with dirs := n.dirs + 1 } else { n with files := n.files + 1 }

/-- The entries beneath a directory, each with the marks before its name; `lead` goes before the
marks, and `fuel` bounds the depth. -/
def branches (t : FileTree) : (fuel : Nat) → (dir lead : Text) → List (Text × DirEntry)
  | 0, _, _ => []
  | fuel + 1, dir, lead =>
    match t.list dir with
    | .error _ => []
    | .ok entries =>
      entries.zipIdx.flatMap fun (e, k) =>
        let isLast := k + 1 = entries.length
        let branch := if isLast then "└── ".toList else "├── ".toList
        let indent := if isLast then "    ".toList else "│   ".toList
        (lead ++ branch, e) ::
          if e.isDir then branches t fuel (Path.join dir e.name) (lead ++ indent) else []

/-- Shows all that lies beneath a directory, and how much that is. -/
def tree : Command Body where
  name := "tree".toList
  description := "Show a directory tree".toList
  usage := "tree [path]".toList
  category := .filesystem
  body := .handler <| .showing fun c d =>
    let path := resolve d (target c.invocation)
    if !d.files.isDir path then
      .error ("tree: ".toList ++ target c.invocation ++ ": not a directory".toList)
    else
      let found := branches d.files d.files.nodes.size path []
      let n := (found.map (·.2)).foldl TreeCounts.add {}
      .success <|
        .colored .blue (Path.display path d.shell.home) ::
        found.map (fun (marks, e) => .parts [⟨marks, none⟩, entryRun e]) ++
        [.blank, .plain (Text.ofNat n.dirs ++ " directories, ".toList ++ Text.ofNat n.files ++
          " files".toList)]

end VirtualTerminal.Builtin
