import VirtualTerminal.Pattern

/-!
# Chains

The operators `&&`, `||` and `;` outside of quotes cut a line into segments. Each of them tells when
the segment after it runs; they all bind alike and to the left.
-/

namespace VirtualTerminal

/-- The operators between the segments of a chain. -/
inductive ChainOperator where
  | and
  | or
  | andThen
  deriving DecidableEq, Repr

namespace ChainOperator

/-- How an operator is written. -/
def symbol : ChainOperator → Text
  | and => "&&".toList
  | or => "||".toList
  | andThen => ";".toList

/-- All operators, in the order in which they are tried at a position. -/
def all : List ChainOperator :=
  [and, or, andThen]

/-- The operator with a symbol. -/
def ofSymbol? (s : Text) : Option ChainOperator :=
  all.find? (·.symbol = s)

/-- Whether the segment after an operator runs, given whether the last segment that ran
succeeded. -/
def admits : ChainOperator → (succeeded : Bool) → Bool
  | and, succeeded => succeeded
  | or, succeeded => !succeeded
  | andThen, _ => true

/-- The operator that a character and the character after it start, and whether that character
belongs to it. -/
def starting? (c : Char) (next : Option Char) : Option ChainOperator :=
  if c = ';' then some andThen
  else if c = '&' ∧ next = some '&' then some and
  else if c = '|' ∧ next = some '|' then some or
  else none

end ChainOperator

/-- A segment of a chain and the operator after it, which the last segment may lack. -/
structure Segment where
  command : Text
  operator : Option ChainOperator
  deriving DecidableEq, Repr

namespace Chain

/-- Whether a line holds an operator outside of quotes. -/
def isPresent (line : Text) : Bool :=
  !(Pattern.hits (ChainOperator.all.map fun o => .literal o.symbol) line).isEmpty

/-- The segment of a trimmed text, unless the text is blank. -/
def segment? (text : Text) (operator : Option ChainOperator) : Option Segment :=
  if Text.trim text = [] then none else some ⟨Text.trim text, operator⟩

/-- The segments of what follows a reading, of which `current` is the text since the last operator.
The next character is passed over if `skip` is set: it ends an operator. -/
def segmentsFrom (r : Reading) (skip : Bool) (current : Text) : Text → List Segment
  | [] => (segment? current none).toList
  | c :: rest =>
    if skip then segmentsFrom (r.after c) false current rest
    else
      let operator :=
        if (r.insideAfter c).isNone then ChainOperator.starting? c rest.head? else none
      match operator with
      | some o =>
        (segment? current (some o)).toList ++ segmentsFrom (r.after c) (o != .andThen) [] rest
      | none => segmentsFrom (r.after c) false (current ++ [c]) rest

/-- The segments of a line. Blank segments are dropped together with the operators after them. -/
def segments (line : Text) : List Segment :=
  segmentsFrom Reading.start false [] line

end Chain

/-! ## Pipes -/

namespace Pipe

/-- The bar between the stages of a pipeline. -/
def bar : Pattern :=
  .literal "|".toList

/-- Whether a line holds a bar outside of quotes. -/
def isPresent (line : Text) : Bool :=
  !(Pattern.hits [bar] line).isEmpty

/-- The stages of a line between bars outside of quotes; blank stages are dropped. -/
def stages (line : Text) : List Text :=
  Pattern.split bar false line

end Pipe

end VirtualTerminal
