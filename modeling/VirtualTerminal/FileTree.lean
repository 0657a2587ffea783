import VirtualTerminal.Error
import VirtualTerminal.Path
import VirtualTerminal.Table

/-!
# Trees of files

A tree is kept as a table from paths in normal form to nodes. What lies beneath a directory are the
entries whose paths start with its path and a slash.
-/

namespace VirtualTerminal

/-- What stands at a path. -/
inductive Node where
  | file (bytes : List UInt8)
  | dir
  deriving DecidableEq, Repr

namespace Node

/-- Whether a node is a directory. -/
def isDir : Node → Bool
  | file _ => false
  | dir => true

/-- The number of bytes of a file; a directory counts as empty. -/
def size : Node → Nat
  | file bytes => bytes.length
  | dir => 0

end Node

/-- An entry of a directory. -/
structure DirEntry where
  name : Text
  isDir : Bool
  size : Nat
  deriving DecidableEq, Repr

/-- A tree of files. -/
structure FileTree where
  nodes : Table Node
  deriving DecidableEq

namespace FileTree

/-- The tree that holds only its root. -/
def empty : FileTree :=
  ⟨Table.empty.insert Path.root .dir⟩

instance : Inhabited FileTree :=
  ⟨empty⟩

/-- The node at a path. -/
def node? (t : FileTree) (path : Text) : Option Node :=
  t.nodes.find? (Path.normalize path)

/-- Whether something stands at a path. -/
def holds (t : FileTree) (path : Text) : Bool :=
  (t.node? path).isSome

/-- Whether a directory stands at a path. -/
def isDir (t : FileTree) (path : Text) : Bool :=
  (t.node? path).any Node.isDir

/-- What the paths beneath a directory start with. -/
def lead (dir : Text) : Text :=
  if dir = Path.root then dir else dir ++ ['/']

/-- The name of an entry right beneath a directory, if a path is one. -/
def childName? (dir path : Text) : Option Text :=
  (Text.stripPrefix? (lead dir) path).filter fun name => name ≠ [] && !name.contains '/'

/-- The entries of a directory, in increasing order of their names. -/
def list (t : FileTree) (path : Text) : Except FileError (List DirEntry) :=
  let dir := Path.normalize path
  match t.nodes.find? dir with
  | none => .error (.noDirectory dir)
  | some (.file _) => .error (.notDirectory dir)
  | some .dir =>
    .ok <| t.nodes.entries.filterMap fun (p, n) =>
      (childName? dir p).map fun name => ⟨name, n.isDir, n.size⟩

/-- The content of a file. -/
def read (t : FileTree) (path : Text) : Except FileError (List UInt8) :=
  let p := Path.normalize path
  match t.nodes.find? p with
  | none => .error (.noFile p)
  | some .dir => .error (.isDirectory p)
  | some (.file bytes) => .ok bytes

/-- What stands at a path. -/
def stat (t : FileTree) (path : Text) : Except FileError Node :=
  let p := Path.normalize path
  match t.nodes.find? p with
  | none => .error (.noPath p)
  | some n => .ok n

/-- Makes a file or replaces its content. Its directory has to be there. -/
def write (t : FileTree) (path : Text) (bytes : List UInt8) : Except FileError FileTree :=
  let p := Path.normalize path
  match t.nodes.find? p with
  | some .dir => .error (.isDirectory p)
  | _ =>
    let dir := Path.parent p
    match t.nodes.find? dir with
    | none => .error (.noParent dir)
    | some (.file _) => .error (.notDirectory dir)
    | some .dir => .ok ⟨t.nodes.insert p (.file bytes)⟩

/-- Makes the directory at a path in normal form and the ones above it that are missing, at most
`fuel` of them. -/
def makeDirFuel (t : FileTree) : (fuel : Nat) → (p : Text) → Except FileError FileTree
  | 0, _ => .ok t
  | fuel + 1, p =>
    match t.nodes.find? p with
    | some .dir => .ok t
    | some (.file _) => .error (.fileExists p)
    | none => do
      let dir := Path.parent p
      let t ← if dir = p then .ok t else makeDirFuel t fuel dir
      return ⟨t.nodes.insert p .dir⟩

/-- Makes a directory and the ones above it that are missing. -/
def makeDir (t : FileTree) (path : Text) : Except FileError FileTree :=
  let p := Path.normalize path
  t.makeDirFuel (p.length + 1) p

/-- Removes a file or a directory that holds nothing. The root is kept. -/
def remove (t : FileTree) (path : Text) : Except FileError FileTree :=
  let p := Path.normalize path
  if p = Path.root then .error .rootIsKept
  else
    match t.nodes.find? p with
    | none => .error (.noPath p)
    | some (.file _) => .ok ⟨t.nodes.erase p⟩
    | some .dir =>
      if t.nodes.keys.any (p ++ ['/']).isPrefixOf then .error (.notEmpty p)
      else .ok ⟨t.nodes.erase p⟩

/-- The tree after an operation that may fail, and whether it did: a failed operation leaves the
tree as it was. -/
def attempt (t : FileTree) (result : Except FileError FileTree) : Except FileError Unit × FileTree :=
  match result with
  | .ok t => (.ok (), t)
  | .error e => (.error e, t)

/-- Applies an operation to the items of a list, one after the other, up to the first failure. -/
def forEach (f : α → FileTree → Except FileError Unit × FileTree) :
    List α → FileTree → Except FileError Unit × FileTree
  | [], t => (.ok (), t)
  | a :: rest, t =>
    match f a t with
    | (.ok (), t) => forEach f rest t
    | (.error e, t) => (.error e, t)

/-- Removes what stands at a path and all beneath it, at most `fuel` levels deep. What has been
removed before a failure stays removed. -/
def removeAllFuel : (fuel : Nat) → (path : Text) → FileTree → Except FileError Unit × FileTree
  | 0, path, t => t.attempt (t.remove path)
  | fuel + 1, path, t =>
    match t.stat path with
    | .error e => (.error e, t)
    | .ok (.file _) => t.attempt (t.remove path)
    | .ok .dir =>
      match t.list path with
      | .error e => (.error e, t)
      | .ok entries =>
        match forEach (fun e => removeAllFuel fuel (Path.join path e.name)) entries t with
        | (.ok (), t) => t.attempt (t.remove path)
        | (.error e, t) => (.error e, t)

/-- Removes what stands at a path and all beneath it. -/
def removeAll (t : FileTree) (path : Text) : Except FileError Unit × FileTree :=
  removeAllFuel t.nodes.size path t

/-- What lies beneath a directory, at most `fuel` levels deep: each path with the size of its file,
each directory right before what it holds. -/
def walk (t : FileTree) : (fuel : Nat) → (dir : Text) → List (Text × Option Nat)
  | 0, _ => []
  | fuel + 1, dir =>
    match t.list dir with
    | .error _ => []
    | .ok entries =>
      entries.flatMap fun e =>
        let path := Path.join dir e.name
        if e.isDir then (path, none) :: walk t fuel path else [(path, some e.size)]

/-- All that the root holds. -/
def dump (t : FileTree) : List (Text × Option Nat) :=
  t.walk t.nodes.size Path.root

end FileTree

end VirtualTerminal
