import VirtualTerminal.Text.Basic

/-!
# Searching a text

A matcher tells how many characters match at the start of a text, given the character before it. The
search with it takes its matches from left to right, each as early as the one before it allows. What is
done with the matches of a text needs to know no more than a `Searcher` tells.
-/

namespace VirtualTerminal

/-- A match in a text: where it starts and where it stops, both in characters. -/
structure Span where
  start : Nat
  stop : Nat
  deriving DecidableEq, Repr

/-- Whether a match is one of nothing. -/
def Span.isEmpty (m : Span) : Bool :=
  m.start = m.stop

/-- A way to search texts: whether a text matches at all, and its matches from left to right. -/
structure Searcher where
  isMatch : Text → Bool
  spans : Text → List Span

/-- How many characters match at the start of a text, given the character before it. -/
abbrev Matcher := (previous : Option Char) → Text → Option Nat

namespace Matcher

/-- Whether there is a match anywhere in a text, at its end included. -/
def occursAfter (m : Matcher) (previous : Option Char) : Text → Bool
  | [] => (m previous []).isSome
  | c :: rest => (m previous (c :: rest)).isSome || occursAfter m (some c) rest

/-- Whether there is a match anywhere in a text. -/
def occurs (m : Matcher) (s : Text) : Bool :=
  m.occursAfter none s

/-- The matches in what follows a position. Once a match of something has been found, `pending` tells
how many of the next characters belong to it; right after it a match of nothing is passed over. -/
def spansFrom (m : Matcher) (previous : Option Char) (position : Nat) (pending : Option Nat) :
    Text → List Span
  | [] => if pending.isNone && (m previous []).isSome then [⟨position, position⟩] else []
  | c :: rest =>
    match pending with
    | some (k + 1) => spansFrom m (some c) (position + 1) (some k) rest
    | _ =>
      match m previous (c :: rest) with
      | none => spansFrom m (some c) (position + 1) none rest
      | some 0 =>
        (if pending.isNone then [⟨position, position⟩] else []) ++
          spansFrom m (some c) (position + 1) none rest
      | some (n + 1) =>
        let more := min n rest.length
        ⟨position, position + 1 + more⟩ :: spansFrom m (some c) (position + 1) (some more) rest

/-- The search with a matcher. -/
def searcher (m : Matcher) : Searcher where
  isMatch := m.occurs
  spans := m.spansFrom none 0 none

end Matcher

end VirtualTerminal
