import VirtualTerminal.Regex.ClassReader

/-!
# Reading whole patterns

Groups, alternations, repetitions and flags around the parts that `Reader.primitive` and
`Reader.bracketedClass` read.
-/

namespace VirtualTerminal.Regex.Reader

/-- What is read before its end: a group with the sequence around it, or the branches of an
alternation. The parts of a sequence and the branches come last first. -/
inductive Frame where
  | group (around : List Tree) (aroundFirst : Nat) (flags : List FlagItem) (opening : Span)
      (verbose : Bool)
  | alternation (branches : List Tree) (first : Nat)

/-- The sequence being read, its parts last first, and what is open around it. -/
structure Partial where
  items : List Tree
  first : Nat
  stack : List Frame

/-- The tree of the sequence read so far. -/
def Partial.concat (p : Partial) (last : Nat) : Tree :=
  Tree.ofItems ⟨p.first, last⟩ p.items.reverse

/-! ## Groups -/

/-- The flag that a letter stands for. -/
def flagOf? : Char → Option Flag
  | 'i' => some .caseInsensitive
  | 'm' => some .multiLine
  | 's' => some .dotMatchesNewLine
  | 'U' => some .swapGreed
  | 'u' => some .unicode
  | 'R' => some .crlf
  | 'x' => some .ignoreWhitespace
  | _ => none

/-- Reads flags up to a colon or a closing parenthesis. -/
def flagItems : (fuel : Nat) → List (FlagItem × Span) → Reader (List (FlagItem × Span))
  | 0, items => return items
  | fuel + 1, items => do
    match ← next? with
    | none => fail .flagUnfinished (← here)
    | some c =>
      let span ← nextSpan
      if c = ':' || c = ')' then
        match items.getLast? with
        | some (.negation, dash) => fail .flagDanglingNegation dash
        | _ => return items
      else
        let item ←
          if c = '-' then pure FlagItem.negation
          else
            match flagOf? c with
            | some f => pure (FlagItem.flag f)
            | none => fail .flagUnknown span
        match items.find? (·.1 = item) with
        | some (_, earlier) =>
          fail (if c = '-' then .flagRepeatedNegation else .flagDuplicate) span (some earlier)
        | none =>
          advance
          if ← atEnd then fail .flagUnfinished (← here)
          flagItems fuel (items ++ [(item, span)])

/-- Whether a character may stand in the name of a group. -/
def isNameChar (isFirst : Bool) (c : Char) : Bool :=
  c = '_' || Unicode.isAlphabetic c ||
    (!isFirst && (c = '.' || c = '[' || c = ']' || Unicode.isNumeric c))

/-- Reads the name of a group and the angle bracket after it. -/
def groupName : Reader Unit := do
  if ← atEnd then fail .groupNameUnfinished (← here)
  let first ← position
  let head ← if (← get).rest.head?.any (isNameChar true) then collectFuel advance (isNameChar true) 1
    else pure []
  let tail ← if head.isEmpty then pure [] else collect (isNameChar false)
  let name := head ++ tail
  match ← next? with
  | none => fail .groupNameUnfinished (← here)
  | some '>' =>
    let span ← since first
    advance
    if name.isEmpty then fail .groupNameEmpty ⟨first, first⟩
    match (← get).names.find? (·.1 = name) with
    | some (_, earlier) => fail .groupNameDuplicate span (some earlier)
    | none => modify fun s => { s with names := (name, span) :: s.names }
  | some _ => fail .groupNameInvalid (← nextSpan)

/-- Reads the opening of a group, or flags that stand alone. -/
def openGroup (p : Partial) : Reader Partial := do
  let opening ← nextSpan
  advance
  skip
  for lead in ["?=", "?!", "?<=", "?<!"] do
    if ← accept lead.toList then fail .lookAround (← since opening.first)
  let enter (flags : List FlagItem) : Reader Partial := do
    let verbose := (← get).verbose
    let inner := (flagState? .ignoreWhitespace flags).getD verbose
    modify ({ · with verbose := inner })
    return { items := [], first := ← position,
             stack := .group p.items p.first flags opening verbose :: p.stack }
  let mark ← here
  if (← accept "?P<".toList) || (← accept "?<".toList) then
    groupName
    enter []
  else if ← accept ['?'] then
    if ← atEnd then fail .groupUnclosed opening
    let items := (← flagItems ((← get).rest.length + 1) []).map (·.1)
    if ← accept [')'] then
      if items.isEmpty then fail .repetitionMissing mark
      match flagState? .ignoreWhitespace items with
      | some on => modify ({ · with verbose := on })
      | none => pure ()
      return { p with items := .setFlags items (← since opening.first) :: p.items }
    else
      advance
      enter items
  else enter []

/-- Reads a closing parenthesis. -/
def closeGroup (p : Partial) : Reader Partial := do
  let finish (body : Tree) (around : List Tree) (first : Nat) (flags : List FlagItem)
      (opening : Span) (verbose : Bool) (stack : List Frame) : Reader Partial := do
    modify ({ · with verbose := verbose })
    advance
    return { items := .group flags body (← since opening.first) :: around, first := first,
             stack := stack }
  let last ← position
  match p.stack with
  | .group around first flags opening verbose :: stack =>
    finish (p.concat last) around first flags opening verbose stack
  | .alternation branches start :: .group around first flags opening verbose :: stack =>
    finish (.alternation (p.concat last :: branches).reverse ⟨start, last⟩) around first flags
      opening verbose stack
  | _ => fail .groupUnopened (← nextSpan)

/-- Reads the bar between two branches. -/
def nextBranch (p : Partial) : Reader Partial := do
  let last ← position
  advance
  let now ← position
  match p.stack with
  | .alternation branches start :: stack =>
    return { items := [], first := now, stack := .alternation (p.concat last :: branches) start :: stack }
  | stack =>
    return { items := [], first := now, stack := .alternation [p.concat last] p.first :: stack }

/-- The tree of a source that has been read to its end. -/
def finishAll (p : Partial) : Reader Tree := do
  let last ← position
  match p.stack with
  | [] => return p.concat last
  | .group _ _ _ opening _ :: _ => fail .groupUnclosed opening
  | .alternation branches start :: rest =>
    match rest with
    | .group _ _ _ opening _ :: _ => fail .groupUnclosed opening
    | _ => return .alternation (p.concat last :: branches).reverse ⟨start, last⟩

/-! ## Repetitions -/

/-- The part that a repetition repeats, and the parts before it. -/
def repeated (p : Partial) : Reader (Tree × List Tree) := do
  match p.items with
  | [] | .empty _ :: _ | .setFlags _ _ :: _ => fail .repetitionMissing (← here)
  | t :: before => return (t, before)

/-- Reads one of the three short repetition operators. -/
def shortRepetition (p : Partial) (least : Nat) (most : Option Nat) : Reader Partial := do
  let (t, before) ← repeated p
  advance
  let greedy := !(← accept ['?'])
  let span ← since t.span.first
  return { p with items := .repetition least most greedy t span :: before }

/-- Reads a count, which blanks may surround; tells the fault and leaves it to the caller. -/
def count : Reader (Except Fault Nat) := do
  discard <| collect isBlank
  let first ← position
  let digits ← collectSkip Char.isDigit
  let span ← since first
  discard <| collectSkip isBlank
  if digits.isEmpty then return .error ⟨.repetitionCountEmpty, span, none⟩
  let n := digits.foldl (fun n c => 10 * n + (c.toNat - '0'.toNat)) 0
  if n < 0x100000000 then return .ok n else return .error ⟨.decimalInvalid, span, none⟩

/-- Reads a counted repetition. -/
def countedRepetition (p : Partial) : Reader Partial := do
  let start ← position
  let (t, before) ← repeated p
  if !(← advanceSkip) then fail .repetitionCountUnclosed (← since start)
  let least ← count
  if ← atEnd then fail .repetitionCountUnclosed (← since start)
  let (low, high) ←
    if ← isNext ',' then do
      if !(← advanceSkip) then fail .repetitionCountUnclosed (← since start)
      if ← isNext '}' then pure (← ofExcept least, none)
      else do
        let low ← ofExcept least
        let high ← ofExcept (← count)
        pure (low, some high)
    else do
      let n ← ofExcept least
      pure (n, some n)
  if !(← isNext '}') then fail .repetitionCountUnclosed (← since start)
  let more ← advanceSkip
  let lazily ← if more then accept ['?'] else pure false
  let operator ← since start
  if high.any (· < low) then fail .repetitionCountInvalid operator
  let span ← since t.span.first
  return { p with items := .repetition low high (!lazily) t span :: before }

/-! ## The whole source -/

/-- Reads what is left of a source. -/
def treeRest : (fuel : Nat) → Partial → Reader Tree
  | 0, p => finishAll p
  | fuel + 1, p => do
    skip
    match ← next? with
    | none => finishAll p
    | some '(' => treeRest fuel (← openGroup p)
    | some ')' => treeRest fuel (← closeGroup p)
    | some '|' => treeRest fuel (← nextBranch p)
    | some '[' => treeRest fuel { p with items := (← bracketedClass) :: p.items }
    | some '?' => treeRest fuel (← shortRepetition p 0 (some 1))
    | some '*' => treeRest fuel (← shortRepetition p 0 none)
    | some '+' => treeRest fuel (← shortRepetition p 1 none)
    | some '{' => treeRest fuel (← countedRepetition p)
    | some c => treeRest fuel { p with items := (← primitive c) :: p.items }

/-- The most parts that may be nested in one another. -/
def nestLimit : Nat := 250

/-- Reads a whole source. -/
def tree : Reader Tree := do
  let t ← treeRest ((← get).rest.length + 1) { items := [], first := 0, stack := [] }
  match t.tooDeep? nestLimit 0 with
  | some span => fail (.nestedTooDeep nestLimit) span
  | none => return t

end VirtualTerminal.Regex.Reader

namespace VirtualTerminal.Regex

/-- The syntax tree of a source. -/
def Tree.parse (source : Text) : Except Fault Tree :=
  (Reader.tree.run { rest := source }).map (·.1)

end VirtualTerminal.Regex
