import VirtualTerminal.Regex.Expr

/-!
# Programs

An expression is compiled to a list of steps that are followed for all ways to match at once. Of
the ways that are open at a position the preferred one comes first; a match of one way ends all
ways after it.
-/

namespace VirtualTerminal.Regex

/-- A step, with the indexes of the steps that can follow it, the preferred one first. -/
inductive Step where
  | done
  | chars (set : CharSet) (next : Nat)
  | look (l : Look) (next : Nat)
  | split (first second : Nat)
  deriving DecidableEq, Repr, Inhabited

/-- The steps of a program. -/
abbrev Steps := Array Step

/-- Adds a step and gives its index. -/
def Steps.add (steps : Steps) (s : Step) : Nat × Steps :=
  (steps.size, steps.push s)

/-- A step that goes to either of two steps. -/
def Step.choose (greedy : Bool) (more done : Nat) : Step :=
  if greedy then .split more done else .split done more

namespace Expr

/-- Adds `count` copies in a row before the step `next`, each of them made by `copy`, and gives the
index of the first step. -/
def copies (copy : Nat → Steps → Nat × Steps) : (count : Nat) → (next : Nat) → Steps → Nat × Steps
  | 0, next, steps => (next, steps)
  | count + 1, next, steps =>
    let (start, steps) := copy next steps
    copies copy count start steps

/-- Adds `count` copies of which each one is optional together with those after it. -/
def optionals (copy : Nat → Steps → Nat × Steps) (greedy : Bool) (next : Nat) :
    (count : Nat) → (inner : Nat) → Steps → Nat × Steps
  | 0, inner, steps => (inner, steps)
  | count + 1, inner, steps =>
    let (start, steps) := copy inner steps
    let (choice, steps) := Steps.add steps (.choose greedy start next)
    optionals copy greedy next count choice steps

/-- Adds a loop that makes copies any number of times before the step `next`; a body that can match
the empty text is entered through a choice of its own, which keeps the order of preference. -/
def loop (copy : Nat → Steps → Nat × Steps) (greedy bodyMatchesEmpty : Bool) (next : Nat)
    (steps : Steps) : Nat × Steps :=
  let (again, steps) := Steps.add steps .done
  let (start, steps) := copy again steps
  let steps := steps.set! again (.choose greedy start next)
  if bodyMatchesEmpty then Steps.add steps (.choose greedy start next) else (again, steps)

/-- Adds the last of at least one copy, after which more may follow. -/
def loopOnce (copy : Nat → Steps → Nat × Steps) (greedy : Bool) (next : Nat) (steps : Steps) :
    Nat × Steps :=
  let (again, steps) := Steps.add steps .done
  let (start, steps) := copy again steps
  (start, steps.set! again (.choose greedy start next))

/-- Adds the steps of an expression before the step `next`, and gives the index of the first. -/
def compile : Expr → (next : Nat) → Steps → Nat × Steps
  | empty, next, steps => (next, steps)
  | chars set, next, steps => Steps.add steps (.chars set next)
  | look l, next, steps => Steps.add steps (.look l next)
  | seq a b, next, steps =>
    let (start, steps) := b.compile next steps
    a.compile start steps
  | alt a b, next, steps =>
    let (first, steps) := a.compile next steps
    let (second, steps) := b.compile next steps
    Steps.add steps (.split first second)
  | rep least none greedy body, next, steps =>
    match least with
    | 0 => loop body.compile greedy body.matchesEmpty next steps
    | n + 1 =>
      let (start, steps) := loopOnce body.compile greedy next steps
      copies body.compile n start steps
  | rep least (some most) greedy body, next, steps =>
    let (start, steps) := optionals body.compile greedy next (most - least) next steps
    copies body.compile least start steps

end Expr

/-- The steps of a pattern and the index of the first. -/
structure Program where
  steps : Steps
  start : Nat

/-- The program of an expression. -/
def Program.ofExpr (e : Expr) : Program :=
  let (done, steps) := Steps.add #[] .done
  let (start, steps) := e.compile done steps
  ⟨steps, start⟩

namespace Program

/-- The ways that are open at a position: the indexes of the steps that read a character or end the
match, last first, and which steps have been reached. -/
structure Ways where
  active : List Nat
  reached : Array Bool

/-- Follows the steps on `pending` that read no character, between two given characters. -/
def follow (p : Program) (previous next : Option Char) : (fuel : Nat) → (pending : List Nat) →
    Ways → Ways
  | 0, _, ways => ways
  | _, [], ways => ways
  | fuel + 1, i :: pending, ways =>
    if ways.reached.getD i true then p.follow previous next fuel pending ways
    else
      let ways := { ways with reached := ways.reached.set! i true }
      match p.steps.getD i .done with
      | .split first second => p.follow previous next fuel (first :: second :: pending) ways
      | .look l n =>
        if l.holds previous next then p.follow previous next fuel (n :: pending) ways
        else p.follow previous next fuel pending ways
      | _ => p.follow previous next fuel pending { ways with active := i :: ways.active }

/-- Adds the ways that start at a step. -/
def enter (p : Program) (previous next : Option Char) (ways : Ways) (i : Nat) : Ways :=
  p.follow previous next (2 * p.steps.size + 2) [i] ways

/-- The ways of no step. -/
def noWays (p : Program) : Ways :=
  ⟨[], Array.replicate p.steps.size false⟩

/-- The ways before the first one that ends the match, and whether there is such a one. -/
def untilDone (p : Program) : List Nat → List Nat × Bool
  | [] => ([], false)
  | i :: rest =>
    match p.steps.getD i .done with
    | .done => ([], true)
    | _ =>
      let (before, isDone) := p.untilDone rest
      (i :: before, isDone)

/-- The length of the preferred match, in characters, of which `length` have been read. `found` is
the best match so far. -/
def run (p : Program) (ways : List Nat) (length : Nat) (found : Option Nat) : Text → Option Nat
  | [] => if (p.untilDone ways).2 then some length else found
  | c :: rest =>
    let (ways, isDone) := p.untilDone ways
    let found := if isDone then some length else found
    if ways.isEmpty then found
    else
      let entered := ways.foldl (fun ws i =>
        match p.steps.getD i .done with
        | .chars set next =>
          if set.contains c then p.enter (some c) rest.head? ws next else ws
        | _ => ws) p.noWays
      p.run entered.active.reverse (length + 1) found rest

/-- The length in characters of the preferred match at the start of a text that comes after
`previous`. -/
def matchLength? (p : Program) (previous : Option Char) (s : Text) : Option Nat :=
  p.run (p.enter previous s.head? p.noWays p.start).active.reverse 0 none s

end Program

end VirtualTerminal.Regex
