import VirtualTerminal.Table
import VirtualTerminal.Text.Lowercase

/-!
# Completion of names

A name is scored against what was typed of it, and the names with a score are listed, the best
ones first.
-/

namespace VirtualTerminal.Completion

/-- The positions at which the characters of `query` are found in a text from `start` on, each one
at the first place after the one before. -/
def positionsFrom (start : Nat) : (query text : Text) → Option (List Nat)
  | [], _ => some []
  | _ :: _, [] => none
  | q :: query, c :: text =>
    if q = c then (positionsFrom (start + 1) query text).map (start :: ·)
    else positionsFrom (start + 1) (q :: query) text

/-- The score of a scattered match: the more of the candidate is covered and the closer together
the characters stand, the higher. -/
def scatteredScore (length : Nat) (positions : List Nat) : Nat :=
  match positions.head?, positions.getLast? with
  | some first, some last =>
    let found := positions.length
    1 + 99 * found / length + 99 * found / (last - first + 1 + 1)
  | _, _ => 0

/-- How well a candidate matches what was typed, without regard to case: 1000 if they are equal,
500 if it starts with it, 200 if it contains it, from 1 to 199 if the characters occur in order, and
0 if they do not or nothing was typed. -/
def score (candidate query : Text) : Nat :=
  let candidate := candidate.lower
  let query := query.lower
  if query = [] then 0
  else if candidate = query then 1000
  else if query.isPrefixOf candidate then 500
  else if Text.hasInfix query candidate then 200
  else
    match positionsFrom 0 query candidate with
    | none => 0
    | some positions => scatteredScore candidate.length positions

/-- Names without repetition, in increasing order. -/
def distinct (names : List Text) : List Text :=
  (Table.ofList (names.map (·, ()))).keys

/-- Whether one scored name is listed before another. -/
def precedes (a b : Nat × Text) : Bool :=
  b.1 < a.1 || (a.1 == b.1 && !(b.2 < a.2 : Bool))

/-- The names that match what was typed, the best ones first and equally good ones in increasing
order; all names if nothing was typed. -/
def complete (typed : Text) (names : List Text) : List Text :=
  let names := distinct names
  if typed = [] then names
  else
    let scored := (names.map fun n => (score n typed, n)).filter (0 < ·.1)
    (scored.mergeSort precedes).map (·.2)

end VirtualTerminal.Completion
