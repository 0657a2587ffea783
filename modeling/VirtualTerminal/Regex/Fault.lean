import VirtualTerminal.Text.Basic

/-!
# Faults of patterns

Why the source of a pattern is refused, where in the source, and how the refusal is shown: the
source line by line, with carets under the place, and the wording of the cause.
-/

namespace VirtualTerminal.Regex

/-- A place in a source, from one character up to another one, counted in characters. -/
structure Span where
  first : Nat
  last : Nat
  deriving DecidableEq, Repr

/-- The causes for which a source is refused. -/
inductive Cause where
  | classEscapeInvalid
  | classRangeInvalid
  | classRangeLiteral
  | classUnclosed
  | decimalInvalid
  | hexEmpty
  | hexInvalid
  | hexDigitInvalid
  | escapeUnfinished
  | escapeUnknown
  | flagDanglingNegation
  | flagDuplicate
  | flagRepeatedNegation
  | flagUnfinished
  | flagUnknown
  | groupNameDuplicate
  | groupNameEmpty
  | groupNameInvalid
  | groupNameUnfinished
  | groupUnclosed
  | groupUnopened
  | nestedTooDeep (limit : Nat)
  | repetitionCountInvalid
  | repetitionCountEmpty
  | repetitionCountUnclosed
  | repetitionMissing
  | boundaryUnclosed
  | boundaryUnknown
  | boundaryUnfinished
  | propertyClassInvalid
  | backreference
  | lookAround
  | unicodeNotAllowed
  | notUtf8
  | propertyUnknown
  | propertyValueUnknown
  deriving DecidableEq, Repr

/-- The wording of a cause. -/
def Cause.message : Cause → Text
  | classEscapeInvalid => "invalid escape sequence found in character class".toList
  | classRangeInvalid => "invalid character class range, the start must be <= the end".toList
  | classRangeLiteral => "invalid range boundary, must be a literal".toList
  | classUnclosed => "unclosed character class".toList
  | decimalInvalid => "decimal literal invalid".toList
  | hexEmpty => "hexadecimal literal empty".toList
  | hexInvalid => "hexadecimal literal is not a Unicode scalar value".toList
  | hexDigitInvalid => "invalid hexadecimal digit".toList
  | escapeUnfinished => "incomplete escape sequence, reached end of pattern prematurely".toList
  | escapeUnknown => "unrecognized escape sequence".toList
  | flagDanglingNegation => "dangling flag negation operator".toList
  | flagDuplicate => "duplicate flag".toList
  | flagRepeatedNegation => "flag negation operator repeated".toList
  | flagUnfinished => "expected flag but got end of regex".toList
  | flagUnknown => "unrecognized flag".toList
  | groupNameDuplicate => "duplicate capture group name".toList
  | groupNameEmpty => "empty capture group name".toList
  | groupNameInvalid => "invalid capture group character".toList
  | groupNameUnfinished => "unclosed capture group name".toList
  | groupUnclosed => "unclosed group".toList
  | groupUnopened => "unopened group".toList
  | nestedTooDeep limit =>
    "exceed the maximum number of nested parentheses/brackets (".toList ++ Text.ofNat limit ++
      ")".toList
  | repetitionCountInvalid =>
    "invalid repetition count range, the start must be <= the end".toList
  | repetitionCountEmpty => "repetition quantifier expects a valid decimal".toList
  | repetitionCountUnclosed => "unclosed counted repetition".toList
  | repetitionMissing => "repetition operator missing expression".toList
  | boundaryUnclosed =>
    "special word boundary assertion is either unclosed or contains an invalid character".toList
  | boundaryUnknown =>
    ("unrecognized special word boundary assertion, valid choices are: start, end, start-half " ++
      "or end-half").toList
  | boundaryUnfinished =>
    ("found either the beginning of a special word boundary or a bounded repetition on a \\b " ++
      "with an opening brace, but no closing brace").toList
  | propertyClassInvalid => "invalid Unicode character class".toList
  | backreference => "backreferences are not supported".toList
  | lookAround => "look-around, including look-ahead and look-behind, is not supported".toList
  | unicodeNotAllowed => "Unicode not allowed here".toList
  | notUtf8 => "pattern can match invalid UTF-8".toList
  | propertyUnknown => "Unicode property not found".toList
  | propertyValueUnknown => "Unicode property value not found".toList

/-- Why and where a source is refused; `related` is an earlier place that the cause refers to. -/
structure Fault where
  cause : Cause
  span : Span
  related : Option Span := none
  deriving DecidableEq, Repr

/-- The line and the column, both counted from one, of a position in a source. -/
def lineColumn (source : Text) (position : Nat) : Nat × Nat :=
  (source.take position).foldl
    (fun (line, column) c => if c = '\n' then (line + 1, 1) else (line, column + 1)) (1, 1)

/-- Carets under the columns `first` up to `last` of a line, after the notes written so far. -/
def addCarets (notes : Text) (first last : Nat) : Text :=
  notes ++ List.replicate (first - 1 - notes.length) ' ' ++
    List.replicate (max 1 (last - first)) '^'

/-- The carets under line `line`, if a span lies on it. -/
def caretLine (source : Text) (spans : List Span) (line : Nat) : Option Text :=
  let onLine := spans.filterMap fun s =>
    let (l₁, c₁) := lineColumn source s.first
    let (l₂, c₂) := lineColumn source s.last
    if l₁ = line ∧ l₂ = line then some (c₁, c₂) else none
  if onLine.isEmpty then none
  else some (onLine.foldl (fun notes (c₁, c₂) => addCarets notes c₁ c₂) [])

/-- The source line by line, with carets under the spans; line numbers stand in front of the lines
if there are several. -/
def annotate (source : Text) (spans : List Span) : Text :=
  let lines := Text.lines source
  let count := lines.length + (if source.getLast? = some '\n' then 1 else 0)
  let width := if count ≤ 1 then 0 else (Text.ofNat count).length
  let margin := if width = 0 then 4 else width + 2
  lines.zipIdx.flatMap fun (line, i) =>
    let lead :=
      if width = 0 then "    ".toList
      else Text.padLeft width (Text.ofNat (i + 1)) ++ ": ".toList
    let carets :=
      match caretLine source spans (i + 1) with
      | none => []
      | some notes => List.replicate margin ' ' ++ notes ++ ['\n']
    lead ++ line ++ '\n' :: carets

/-- The remarks on spans that go over several lines. -/
def remarks (source : Text) (spans : List Span) : Text :=
  let several := spans.filterMap fun s =>
    let (l₁, c₁) := lineColumn source s.first
    let (l₂, c₂) := lineColumn source s.last
    if l₁ = l₂ then none
    else
      some ("on line ".toList ++ Text.ofNat l₁ ++ " (column ".toList ++ Text.ofNat c₁ ++
        ") through line ".toList ++ Text.ofNat l₂ ++ " (column ".toList ++ Text.ofNat (c₂ - 1) ++
        ")".toList)
  if several.isEmpty then [] else Text.join ['\n'] several ++ ['\n']

/-- The message that shows a fault in its source. -/
def Fault.message (source : Text) (f : Fault) : Text :=
  let spans := (f.related.toList ++ [f.span]).mergeSort fun a b => a.first ≤ b.first
  let body := annotate source spans
  let rule := List.replicate 79 '~' ++ ['\n']
  let framed :=
    if source.contains '\n' then rule ++ body ++ rule ++ remarks source spans else body
  "regex parse error:\n".toList ++ framed ++ "error: ".toList ++ f.cause.message

end VirtualTerminal.Regex
