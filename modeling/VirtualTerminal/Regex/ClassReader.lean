import VirtualTerminal.Regex.CharSet
import VirtualTerminal.Regex.Reader

/-!
# Reading bracketed classes

A class holds characters, ranges, other classes and the operators for intersection, difference and
symmetric difference, which all bind alike and to the left. A closing bracket right after the
opening one stands for itself, and so do dashes there.
-/

namespace VirtualTerminal.Regex.Reader

/-- The operators between the parts of a class. -/
inductive ClassOp where
  | inter
  | diff
  | symmDiff
  deriving DecidableEq, Repr

/-- The class that an operator makes of two. -/
def ClassOp.apply : ClassOp → ClassTree → ClassTree → ClassTree
  | inter => .inter
  | diff => .diff
  | symmDiff => .symmDiff

/-- A class whose closing bracket has not been read: what stands around it, where it starts, and
the operator with its left side if one has been read. -/
structure OpenClass where
  outer : ClassTree
  negated : Bool
  /-- The place of the opening bracket and the signs that belong to it. -/
  opening : Span
  pending : Option (ClassOp × ClassTree)

/-- Joins the last part of a class with the operator before it. -/
def OpenClass.close (o : OpenClass) (last : ClassTree) : ClassTree :=
  match o.pending with
  | none => last
  | some (op, left) => op.apply left last

/-- Fails because the innermost open class is not closed. -/
def unclosedClass (stack : List OpenClass) : Reader α :=
  match stack with
  | o :: _ => fail .classUnclosed o.opening
  | [] => do fail .classUnclosed (← here)

/-- Reads the name of an ASCII class, the cursor on the bracket before the colon; leaves the
cursor there if it is none. -/
def asciiClass? : Reader (Option ClassTree) := do
  let before ← get
  let start ← position
  advance
  if !(← accept [':']) then
    set before
    return none
  let negated ← accept ['^']
  let name := String.ofList (← collect (· ≠ ':'))
  if (CharSet.ofAsciiName? name).isSome && (← accept [':', ']']) then
    return some (.ascii name negated (← since start))
  else
    set before
    return none

/-- Reads dashes that stand for themselves. -/
def leadingDashes (start : Nat) : (fuel : Nat) → ClassTree → Reader ClassTree
  | 0, items => return items
  | fuel + 1, items => do
    if ← isNext '-' then
      let dash : Literal := { span := ← nextSpan, char := '-' }
      if !(← advanceSkip) then fail .classUnclosed ⟨start, start⟩
      leadingDashes start fuel (.union items (.literal dash))
    else return items

/-- Reads an opening bracket and the signs that belong to it. -/
def openClass (outer : ClassTree) : Reader (OpenClass × ClassTree) := do
  let start ← position
  if !(← advanceSkip) then fail .classUnclosed (← since start)
  let negated ← isNext '^'
  if negated then
    if !(← advanceSkip) then fail .classUnclosed (← since start)
  let items ← leadingDashes start (← get).rest.length .nothing
  let items ←
    if items = .nothing && (← isNext ']') then do
      let bracket : Literal := { span := ← nextSpan, char := ']' }
      if !(← advanceSkip) then fail .classUnclosed (← since start)
      pure (ClassTree.union items (.literal bracket))
    else pure items
  return ({ outer := outer, negated := negated, opening := ← since start, pending := none }, items)

/-- Reads one end of a range or a part that is none. -/
def classItem (c : Char) : Reader Tree := do
  if c = '\\' then escape
  else
    let span ← nextSpan
    advance
    return .literal { span := span, char := c }

/-- The part of a class that a tree stands for. -/
def classPart : Tree → Reader ClassTree
  | .literal l => return .literal l
  | .shorthand kind negated span => return .shorthand kind negated span
  | .property name negated span => return .property name negated span
  | t => fail .classEscapeInvalid t.span

/-- The end of a range that a tree stands for. -/
def rangeEnd : Tree → Reader Literal
  | .literal l => return l
  | t => fail .classRangeLiteral t.span

/-- Reads a character, a range or an escape of a class. -/
def classRange (stack : List OpenClass) (c : Char) : Reader ClassTree := do
  let first ← classItem c
  skip
  if ← atEnd then unclosedClass stack
  let following ← afterNextSkip?
  if !(← isNext '-') || following = some ']' || following = some '-' then classPart first
  else
    if !(← advanceSkip) then unclosedClass stack
    match ← next? with
    | none => unclosedClass stack
    | some d =>
      let last ← classItem d
      let span : Span := ⟨first.span.first, last.span.last⟩
      let low ← rangeEnd first
      let high ← rangeEnd last
      if high.char < low.char then fail .classRangeInvalid span
      return .range low high

/-- Reads the rest of a class: `stack` holds the open classes, the innermost one first, and
`items` the parts of the innermost one since its last operator. -/
def classRest : (fuel : Nat) → (stack : List OpenClass) → (items : ClassTree) → Reader Tree
  | 0, stack, _ => unclosedClass stack
  | _, [], _ => do fail .classUnclosed (← here)
  | fuel + 1, o :: outer, items => do
    let operator (op : ClassOp) : Reader Tree := do
      advance
      advance
      classRest fuel ({ o with pending := some (op, o.close items) } :: outer) .nothing
    skip
    let following ← afterNext?
    match ← next? with
    | none => unclosedClass (o :: outer)
    | some ']' =>
      advance
      let span ← since o.opening.first
      match outer with
      | [] => return .bracketed o.negated (o.close items) span
      | _ :: _ =>
        classRest fuel outer (.union o.outer (.bracketed o.negated (o.close items) span))
    | some '[' =>
      match ← asciiClass? with
      | some cls => classRest fuel (o :: outer) (.union items cls)
      | none =>
        let (inner, first) ← openClass items
        classRest fuel (inner :: o :: outer) first
    | some c =>
      if c = '&' && following = some '&' then operator .inter
      else if c = '-' && following = some '-' then operator .diff
      else if c = '~' && following = some '~' then operator .symmDiff
      else classRest fuel (o :: outer) (.union items (← classRange (o :: outer) c))

/-- Reads a bracketed class, the cursor on its opening bracket. -/
def bracketedClass : Reader Tree := do
  let (o, items) ← openClass .nothing
  classRest ((← get).rest.length + 1) [o] items

end VirtualTerminal.Regex.Reader
