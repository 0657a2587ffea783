import VirtualTerminal.Regex.Fault

/-!
# Syntax trees of patterns

What the source of a pattern says, with the place of each part, before flags and properties are
given a meaning.
-/

namespace VirtualTerminal.Regex

/-- A character that stands for itself. One written as two hexadecimal digits also names a byte. -/
structure Literal where
  span : Span
  char : Char
  isByte : Bool := false
  deriving DecidableEq, Repr

/-- The shorthand classes. -/
inductive Shorthand where
  | digit
  | space
  | word
  deriving DecidableEq, Repr

/-- The assertions about a position. -/
inductive Assertion where
  | startLine
  | endLine
  | startText
  | endText
  | wordBoundary
  | notWordBoundary
  | wordStart
  | wordEnd
  | wordStartHalf
  | wordEndHalf
  deriving DecidableEq, Repr

/-- How a property class names its set. -/
inductive PropertyName where
  | single (name : Text)
  | valued (property value : Text) (negated : Bool)
  deriving DecidableEq, Repr

/-- The flags that change the meaning of what follows them. -/
inductive Flag where
  | caseInsensitive
  | multiLine
  | dotMatchesNewLine
  | swapGreed
  | unicode
  | crlf
  | ignoreWhitespace
  deriving DecidableEq, Repr

/-- An item of a list of flags: a flag, or the sign that switches off the ones after it. -/
inductive FlagItem where
  | negation
  | flag (f : Flag)
  deriving DecidableEq, Repr

/-- Whether a list of flags switches a flag on or off. -/
def flagState? (f : Flag) (items : List FlagItem) : Option Bool :=
  if items.contains (.flag f) then
    some (!(items.takeWhile (· ≠ .flag f)).contains .negation)
  else none

/-- What stands between the brackets of a class. -/
inductive ClassTree where
  | nothing
  | literal (l : Literal)
  | range (first last : Literal)
  | ascii (name : String) (negated : Bool) (span : Span)
  | shorthand (kind : Shorthand) (negated : Bool) (span : Span)
  | property (name : PropertyName) (negated : Bool) (span : Span)
  | bracketed (negated : Bool) (content : ClassTree) (span : Span)
  | union (a b : ClassTree)
  | inter (a b : ClassTree)
  | diff (a b : ClassTree)
  | symmDiff (a b : ClassTree)
  deriving DecidableEq, Repr

/-- The syntax tree of a pattern. -/
inductive Tree where
  | empty (span : Span)
  | setFlags (items : List FlagItem) (span : Span)
  | literal (l : Literal)
  | dot (span : Span)
  | assertion (kind : Assertion) (span : Span)
  | shorthand (kind : Shorthand) (negated : Bool) (span : Span)
  | property (name : PropertyName) (negated : Bool) (span : Span)
  | bracketed (negated : Bool) (content : ClassTree) (span : Span)
  | repetition (least : Nat) (most : Option Nat) (greedy : Bool) (body : Tree) (span : Span)
  | group (flags : List FlagItem) (body : Tree) (span : Span)
  | concat (items : List Tree) (span : Span)
  | alternation (branches : List Tree) (span : Span)

/-- The place of a tree. -/
def Tree.span : Tree → Span
  | empty s | setFlags _ s | dot s | assertion _ s | shorthand _ _ s | property _ _ s
  | bracketed _ _ s | repetition _ _ _ _ s | group _ _ s | concat _ s | alternation _ s => s
  | literal l => l.span

/-- The tree of a sequence of trees. -/
def Tree.ofItems (span : Span) : List Tree → Tree
  | [] => empty span
  | [t] => t
  | items => concat items span

mutual

/-- The first part that lies inside more than `limit` nested parts. -/
def Tree.tooDeep? (limit depth : Nat) : Tree → Option Span
  | empty _ | setFlags _ _ | literal _ | dot _ | assertion _ _ | shorthand _ _ _
  | property _ _ _ => none
  | bracketed _ _ span => if limit ≤ depth then some span else none
  | repetition _ _ _ body span =>
    if limit ≤ depth then some span else body.tooDeep? limit (depth + 1)
  | group _ body span => if limit ≤ depth then some span else body.tooDeep? limit (depth + 1)
  | concat items span => if limit ≤ depth then some span else listTooDeep? limit (depth + 1) items
  | alternation items span =>
    if limit ≤ depth then some span else listTooDeep? limit (depth + 1) items

/-- The first part of a list of trees that lies inside more than `limit` nested parts. -/
def Tree.listTooDeep? (limit depth : Nat) : List Tree → Option Span
  | [] => none
  | t :: rest =>
    match t.tooDeep? limit depth with
    | some span => some span
    | none => Tree.listTooDeep? limit depth rest

end

end VirtualTerminal.Regex
