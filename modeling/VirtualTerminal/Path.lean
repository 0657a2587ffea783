import VirtualTerminal.Text.Basic

/-!
# Paths

A path names a place in a tree of files. An absolute path in normal form is `/`, or a `/` before
each of its components, none of which is empty. Resolving a path that a user types also removes the
components `.` and `..` and replaces a leading `~` by the home directory.
-/

namespace VirtualTerminal.Path

/-- The path of the root. -/
def root : Text :=
  ['/']

/-- The path of an entry of a directory. -/
def join (dir name : Text) : Text :=
  if dir = root then '/' :: name else dir ++ '/' :: name

/-- The absolute path with the given components. -/
def ofComponents : List Text → Text
  | [] => root
  | parts => parts.flatMap fun part => '/' :: part

/-- The components of a path that are not empty. -/
def components (p : Text) : List Text :=
  (Text.split '/' p).filter (· ≠ [])

/-! ## Normal form -/

/-- Whether two slashes follow one another in a path. -/
def hasDoubleSlash (p : Text) : Bool :=
  Text.hasInfix ['/', '/'] p

/-- Whether a path is absolute, holds no two slashes in a row, and ends in no slash unless it is
the root. -/
def isNormal (p : Text) : Bool :=
  p.head? = some '/' && !(1 < p.length && p.getLast? = some '/') && !hasDoubleSlash p

/-- The normal form of a path. The components `.` and `..` are kept. -/
def normalize (p : Text) : Text :=
  if isNormal p then p else ofComponents (components p)

/-- The path of the directory that a path in normal form lies in. -/
def parent (p : Text) : Text :=
  match Text.splitLast '/' p with
  | none | some ([], _) => root
  | some (dir, _) => dir

/-! ## Resolving -/

/-- The components after one more, the last one first: `..` takes the last one away. -/
def step (parts : List Text) (part : Text) : List Text :=
  if part = [] ∨ part = ['.'] then parts
  else if part = ['.', '.'] then parts.tail
  else part :: parts

/-- The path that a typed path means before its components are looked at. -/
def expand (cwd typed home : Text) : Text :=
  match typed with
  | ['~'] => home
  | '~' :: '/' :: rest => join home rest
  | '/' :: _ => typed
  | _ => join cwd typed

/-- The absolute path that a typed path means in a working directory. -/
def resolve (cwd typed home : Text) : Text :=
  ofComponents ((Text.split '/' (expand cwd typed home)).foldl step []).reverse

/-- A path as it is shown: with `~` in place of the home directory. -/
def display (p home : Text) : Text :=
  if p = home then ['~']
  else
    match Text.stripPrefix? home p with
    | some ('/' :: rest) => '~' :: '/' :: rest
    | _ => p

end VirtualTerminal.Path
