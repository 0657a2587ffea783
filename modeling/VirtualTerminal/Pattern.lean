import VirtualTerminal.Error
import VirtualTerminal.Quote
import VirtualTerminal.Regex
import VirtualTerminal.Text.Blank

/-!
# Patterns outside of quotes

Operators and delimiters are searched for outside of quoted spans only. The search goes from left
to right, takes the first pattern of a list that matches at a position, and goes on after the
match, so that matches do not overlap.

The search is written for any kind of pattern `π` with a function that gives the length of a match;
`Pattern` is the kind with literals and regular expressions.
-/

namespace VirtualTerminal

/-- A match of a pattern: where it starts and how long it is, both in characters. -/
structure Hit (π : Type u) where
  pattern : π
  start : Nat
  length : Nat
  deriving DecidableEq, Repr

namespace Hit

variable {π : Type u}

/-- The position after a match. -/
def stop (h : Hit π) : Nat :=
  h.start + h.length

/-- The matches in what follows a reading, of which `position` characters have been read. The next
`skip` characters belong to a match found before. `find` gives the pattern that matches at the
start of a text, and the length of its match, from the character before the text. -/
def allFrom (find : Option Char → Text → Option (π × Nat)) (r : Reading) (position skip : Nat) :
    Text → List (Hit π)
  | [] => []
  | c :: rest =>
    let searched := if skip = 0 ∧ (r.insideAfter c).isNone then find r.previous (c :: rest) else none
    match searched with
    | some (p, n) =>
      ⟨p, position, n⟩ :: allFrom find (r.after c) (position + 1) (n - 1) rest
    | none => allFrom find (r.after c) (position + 1) (skip - 1) rest

/-- The first pattern of a list that matches at the start of a text. -/
def first (matchLength? : π → Option Char → Text → Option Nat) (patterns : List π)
    (previous : Option Char) (s : Text) : Option (π × Nat) :=
  patterns.findSome? fun p => (matchLength? p previous s).map fun n => (p, n)

/-- The matches of a list of patterns in a text, outside of quotes. -/
def all (matchLength? : π → Option Char → Text → Option Nat) (patterns : List π) (s : Text) :
    List (Hit π) :=
  allFrom (first matchLength? patterns) Reading.start 0 0 s

end Hit

/-- The characters of a text from one position up to another one. -/
def Text.slice (s : Text) (start stop : Nat) : Text :=
  (s.take stop).drop start

/-- A literal or a regular expression. -/
inductive Pattern where
  | literal (text : Text)
  | regex (re : Regex)

namespace Pattern

/-- The regular expression with a source. -/
def ofRegex (source : Text) : Except Error Pattern :=
  match Regex.compile source with
  | .ok re => .ok (.regex re)
  | .error reason => .error (.badPattern source reason)

/-- How a pattern is shown. -/
def display : Pattern → Text
  | literal text => text
  | regex re => ['/'] ++ re.source ++ ['/']

/-- The length in characters of the match at the start of a text that comes after `previous`. A
match is never empty. -/
def matchLength? : Pattern → (previous : Option Char) → Text → Option Nat
  | literal text, _, s => if text ≠ [] ∧ text.isPrefixOf s then some text.length else none
  | regex re, previous, s =>
    (re.matchLength? previous s).filter fun n => 0 < n && n ≤ s.length

/-- The matches of a list of patterns in a text, outside of quotes. -/
def hits (patterns : List Pattern) (s : Text) : List (Hit Pattern) :=
  Hit.all matchLength? patterns s

/-- What a text holds from a position on, as it stands: the slices between matches and, if `keep` is
set, the slices that the matches cover. -/
def piecesFrom (s : Text) (keep : Bool) (start : Nat) : List (Hit Pattern) → List Text
  | [] => [Text.slice s start s.length]
  | h :: rest =>
    Text.slice s start h.start ::
      ((if keep then [Text.slice s h.start h.stop] else []) ++ piecesFrom s keep h.stop rest)

/-- The trimmed pieces of a text between the matches of a delimiter; blank ones are dropped. The
trimmed delimiters stand between them if `keep` is set. -/
def split (delimiter : Pattern) (keep : Bool) (s : Text) : List Text :=
  ((piecesFrom s keep 0 (hits [delimiter] s)).map Text.trim).filter (· ≠ [])

end Pattern

end VirtualTerminal
