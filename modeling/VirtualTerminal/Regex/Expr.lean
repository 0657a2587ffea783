import VirtualTerminal.Regex.Property
import VirtualTerminal.Regex.TreeReader

/-!
# Expressions

An expression is what a syntax tree means under the flags in force: sets of characters, assertions
about positions, sequences, alternatives and repetitions. Flags set inside a group are in force up
to its end.
-/

namespace VirtualTerminal.Regex

/-- An assertion about the characters on both sides of a position. -/
inductive Look where
  | textStart
  | textEnd
  /-- At the start of a line; lines may also end in carriage returns if `crlf` is set. -/
  | lineStart (crlf : Bool)
  | lineEnd (crlf : Bool)
  /-- Between two characters, of which the sides that are given must be word characters or not. -/
  | word (chars : CharSet) (before after : Option Bool)
  /-- Where a word starts or ends, or where neither happens. -/
  | boundary (chars : CharSet) (negated : Bool)
  deriving DecidableEq, Repr

/-- What a pattern matches. Earlier alternatives are preferred. -/
inductive Expr where
  | empty
  | chars (set : CharSet)
  | look (l : Look)
  | seq (a b : Expr)
  | alt (a b : Expr)
  | rep (least : Nat) (most : Option Nat) (greedy : Bool) (body : Expr)
  deriving DecidableEq, Repr

namespace Look

/-- Whether an assertion holds between two characters, of which one is missing at either end. -/
def holds : Look → (previous next : Option Char) → Bool
  | textStart, p, _ => p.isNone
  | textEnd, _, n => n.isNone
  | lineStart false, p, _ => p.all (· == '\n')
  | lineStart true, p, n => p.all (· == '\n') || (p == some '\r' && n != some '\n')
  | lineEnd false, _, n => n.all (· == '\n')
  | lineEnd true, p, n => n.all (· == '\r') || (n == some '\n' && p != some '\r')
  | word chars before after, p, n =>
    before.all (· == p.any chars.contains) && after.all (· == n.any chars.contains)
  | boundary chars negated, p, n => (p.any chars.contains == n.any chars.contains) == negated

end Look

/-- The flags in force. -/
structure Flags where
  caseInsensitive : Bool := false
  multiLine : Bool := false
  dotMatchesNewLine : Bool := false
  swapGreed : Bool := false
  unicode : Bool := true
  crlf : Bool := false
  deriving DecidableEq, Repr

/-- The flags after a list of items. -/
def Flags.apply (f : Flags) (items : List FlagItem) : Flags :=
  { caseInsensitive := (flagState? .caseInsensitive items).getD f.caseInsensitive
    multiLine := (flagState? .multiLine items).getD f.multiLine
    dotMatchesNewLine := (flagState? .dotMatchesNewLine items).getD f.dotMatchesNewLine
    swapGreed := (flagState? .swapGreed items).getD f.swapGreed
    unicode := (flagState? .unicode items).getD f.unicode
    crlf := (flagState? .crlf items).getD f.crlf }

namespace Flags

/-- Fails because a set cannot be matched in UTF-8: without Unicode only ASCII may be matched. -/
def checkAscii (f : Flags) (span : Span) (s : CharSet) : Except Fault CharSet :=
  if !f.unicode && s.contains '\u0080' then .error ⟨.notUtf8, span, none⟩ else .ok s

/-- A set with its case variants if case is ignored; only ASCII letters vary without Unicode. -/
def fold (f : Flags) (s : CharSet) : CharSet :=
  if !f.caseInsensitive then s
  else if f.unicode then .caseless s
  else .inter (.caseless s) (.ranges [(0, 0x7F)])

/-- A set under the flags, negated or not. -/
def finish (f : Flags) (span : Span) (negated : Bool) (s : CharSet) : Except Fault CharSet :=
  let s := f.fold s
  f.checkAscii span (if negated then .compl s else s)

/-- The set of a shorthand class. -/
def shorthandSet (f : Flags) (kind : Shorthand) (negated : Bool) (span : Span) :
    Except Fault CharSet :=
  let s : CharSet :=
    match kind, f.unicode with
    | .digit, true => .digits
    | .digit, false => .asciiDigits
    | .space, true => .blanks
    | .space, false => .asciiBlanks
    | .word, true => .wordChars
    | .word, false => .asciiWordChars
  f.checkAscii span (if negated then .compl s else s)

/-- The set of a property class. -/
def propertySet (f : Flags) (name : PropertyName) (negated : Bool) (span : Span) :
    Except Fault CharSet := do
  if !f.unicode then throw ⟨.unicodeNotAllowed, span, none⟩
  match name with
  | .single n =>
    match named? n with
    | some s => f.finish span negated s
    | none => throw ⟨.propertyUnknown, span, none⟩
  | .valued p v unequal =>
    match valued? p v with
    | .ok s => f.finish span (negated != unequal) s
    | .error cause => throw ⟨cause, span, none⟩

/-- The character of a literal in a class. -/
def classLiteral (f : Flags) (l : Literal) : Except Fault Char :=
  if f.unicode || l.char.toNat < 0x80 then .ok l.char
  else .error ⟨if l.isByte then .notUtf8 else .unicodeNotAllowed, l.span, none⟩

/-- The set of the content of a class. -/
def classSet (f : Flags) : ClassTree → Except Fault CharSet
  | .nothing => .ok .none
  | .literal l => (f.classLiteral l).map .single
  | .range first last => return .between (← f.classLiteral first) (← f.classLiteral last)
  | .ascii name negated span => f.finish span negated ((CharSet.ofAsciiName? name).getD .none)
  | .shorthand kind negated span => f.shorthandSet kind negated span
  | .property name negated span => f.propertySet name negated span
  | .bracketed negated content span => do f.finish span negated (← f.classSet content)
  | .union a b => return .union (← f.classSet a) (← f.classSet b)
  | .inter a b => return .inter (f.fold (← f.classSet a)) (f.fold (← f.classSet b))
  | .diff a b => return .diff (f.fold (← f.classSet a)) (f.fold (← f.classSet b))
  | .symmDiff a b => return .symmDiff (f.fold (← f.classSet a)) (f.fold (← f.classSet b))

/-- The expression of a literal outside of classes. -/
def literalExpr (f : Flags) (l : Literal) : Except Fault Expr :=
  if l.isByte && !f.unicode && 0x80 ≤ l.char.toNat then .error ⟨.notUtf8, l.span, none⟩
  else if f.unicode || l.char.toNat < 0x80 then .ok (.chars (f.fold (.single l.char)))
  else .ok (.chars (.single l.char))

/-- The expression of the dot. -/
def dotExpr (f : Flags) (span : Span) : Except Fault Expr :=
  if !f.unicode then .error ⟨.notUtf8, span, none⟩
  else if f.dotMatchesNewLine then .ok (.chars .all)
  else if f.crlf then .ok (.chars (.compl (.ranges [(0xA, 0xA), (0xD, 0xD)])))
  else .ok (.chars (.compl (.single '\n')))

/-- The assertion that a sign stands for. -/
def look (f : Flags) (kind : Assertion) : Look :=
  let words : CharSet := if f.unicode then .wordChars else .asciiWordChars
  match kind with
  | .startLine => if f.multiLine then .lineStart f.crlf else .textStart
  | .endLine => if f.multiLine then .lineEnd f.crlf else .textEnd
  | .startText => .textStart
  | .endText => .textEnd
  | .wordBoundary => .boundary words false
  | .notWordBoundary => .boundary words true
  | .wordStart => .word words (some false) (some true)
  | .wordEnd => .word words (some true) (some false)
  | .wordStartHalf => .word words (some false) none
  | .wordEndHalf => .word words none (some false)

end Flags

mutual

/-- The expression of a tree under the flags in force, and the flags in force after it. -/
def Tree.toExpr (f : Flags) : Tree → Except Fault (Expr × Flags)
  | .empty _ => .ok (.empty, f)
  | .setFlags items _ => .ok (.empty, f.apply items)
  | .literal l => (f.literalExpr l).map (·, f)
  | .dot span => (f.dotExpr span).map (·, f)
  | .assertion kind _ => .ok (.look (f.look kind), f)
  | .shorthand kind negated span => (f.shorthandSet kind negated span).map (.chars ·, f)
  | .property name negated span => (f.propertySet name negated span).map (.chars ·, f)
  | .bracketed negated content span => do
    return (.chars (← f.finish span negated (← f.classSet content)), f)
  | .repetition least most greedy body _ => do
    let (e, g) ← body.toExpr f
    return (.rep least most (greedy != f.swapGreed) e, g)
  | .group flags body _ => do
    let (e, _) ← body.toExpr (f.apply flags)
    return (e, f)
  | .concat items _ => Tree.seqExpr f items
  | .alternation branches _ => Tree.altExpr f branches

/-- The expression of a sequence. -/
def Tree.seqExpr (f : Flags) : List Tree → Except Fault (Expr × Flags)
  | [] => .ok (.empty, f)
  | t :: rest => do
    let (e, g) ← t.toExpr f
    let (es, h) ← Tree.seqExpr g rest
    return (.seq e es, h)

/-- The expression of alternatives; flags set in one are in force in the later ones. -/
def Tree.altExpr (f : Flags) : List Tree → Except Fault (Expr × Flags)
  | [] => .ok (.chars .none, f)
  | t :: rest => do
    let (e, g) ← t.toExpr f
    let (es, h) ← Tree.altExpr g rest
    return (.alt e es, h)

end

namespace Expr

/-- Whether an expression can match the empty text. -/
def matchesEmpty : Expr → Bool
  | empty => true
  | chars _ => false
  | look _ => true
  | seq a b => a.matchesEmpty && b.matchesEmpty
  | alt a b => a.matchesEmpty || b.matchesEmpty
  | rep least most _ body => least == 0 || most == some 0 || body.matchesEmpty

/-- An estimate of the size of the compiled expression: it counts what is tried and how often it is
repeated, not the bytes of a program. -/
def weight : Expr → Nat
  | empty => 1
  | chars set => 1 + set.weight
  | look _ => 1
  | seq a b => a.weight + b.weight
  | alt a b => 1 + a.weight + b.weight
  | rep least most _ body => 1 + max (max least (most.getD 0)) 1 * (1 + body.weight)

end Expr

end VirtualTerminal.Regex
