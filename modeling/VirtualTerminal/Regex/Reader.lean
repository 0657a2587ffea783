import VirtualTerminal.Regex.Syntax
import VirtualTerminal.Text.Blank

/-!
# Reading a source

A reader goes through a source character by character. In verbose mode blanks and comments, which
run from a number sign to the end of the line, can be skipped between characters.
-/

namespace VirtualTerminal.Regex

/-- Where the reading of a source stands. -/
structure Cursor where
  /-- What is still to be read. -/
  rest : Text
  /-- The number of characters read. -/
  offset : Nat := 0
  verbose : Bool := false
  /-- The names of groups read so far. -/
  names : List (Text × Span) := []

/-- A step of reading, which moves the cursor on or finds a fault. -/
abbrev Reader := StateT Cursor (Except Fault)

namespace Reader

/-- What follows blanks and comments. -/
def skipBlanks : (inComment : Bool) → Text → Text
  | _, [] => []
  | true, c :: rest => skipBlanks (c ≠ '\n') rest
  | false, c :: rest =>
    if isBlank c then skipBlanks false rest
    else if c = '#' then skipBlanks true rest
    else c :: rest

/-- Fails with a cause at a place. -/
def fail (cause : Cause) (span : Span) (related : Option Span := none) : Reader α :=
  throw ⟨cause, span, related⟩

/-- The position of the cursor. -/
def position : Reader Nat :=
  return (← get).offset

/-- The next character. -/
def next? : Reader (Option Char) :=
  return (← get).rest.head?

/-- Whether the source is at its end. -/
def atEnd : Reader Bool :=
  return (← get).rest.isEmpty

/-- Whether a given character comes next. -/
def isNext (c : Char) : Reader Bool :=
  return (← get).rest.head? == some c

/-- The empty place at the cursor. -/
def here : Reader Span :=
  return ⟨(← get).offset, (← get).offset⟩

/-- The place of the next character. -/
def nextSpan : Reader Span :=
  return ⟨(← get).offset, (← get).offset + 1⟩

/-- The place from a position up to the cursor. -/
def since (first : Nat) : Reader Span :=
  return ⟨first, (← get).offset⟩

/-- Moves past the next character. -/
def advance : Reader Unit :=
  modify fun s =>
    match s.rest with
    | [] => s
    | _ :: rest => { s with rest := rest, offset := s.offset + 1 }

/-- Skips blanks and comments in verbose mode. -/
def skip : Reader Unit :=
  modify fun s =>
    if s.verbose then
      let rest := skipBlanks false s.rest
      { s with rest := rest, offset := s.offset + (s.rest.length - rest.length) }
    else s

/-- Moves past the next character and what can be skipped, and tells whether anything is left. -/
def advanceSkip : Reader Bool := do
  advance
  skip
  return !(← atEnd)

/-- Moves past a text if it comes next. -/
def accept (lead : Text) : Reader Bool := do
  let s ← get
  match Text.stripPrefix? lead s.rest with
  | some rest =>
    set { s with rest := rest, offset := s.offset + lead.length }
    return true
  | none => return false

/-- The characters that pass a test, with `step` between them. -/
def collectFuel (step : Reader Unit) (p : Char → Bool) : (fuel : Nat) → Reader Text
  | 0 => return []
  | fuel + 1 => do
    match ← next? with
    | some c =>
      if p c then
        step
        return c :: (← collectFuel step p fuel)
      else return []
    | none => return []

/-- The characters from the next one on that pass a test. -/
def collect (p : Char → Bool) : Reader Text := do
  collectFuel advance p (← get).rest.length

/-- The characters from the next one on that pass a test; skips what can be skipped after each. -/
def collectSkip (p : Char → Bool) : Reader Text := do
  collectFuel (discard advanceSkip) p (← get).rest.length

/-- The character after the next one. -/
def afterNext? : Reader (Option Char) :=
  return (← get).rest.tail.head?

/-- The character after the next one; in verbose mode blanks and the sign that starts a comment
are passed over, the text of the comment is not. -/
def afterNextSkip? : Reader (Option Char) := do
  let s ← get
  if s.verbose then
    let rest := s.rest.tail.dropWhile isBlank
    let rest := if rest.head? = some '#' then rest.tail.dropWhile isBlank else rest
    return rest.head?.orElse fun _ => s.rest.tail.head?
  else return s.rest.tail.head?

/-! ## Escapes -/

/-- Whether a character has a meaning of its own in patterns. -/
def isMeta (c : Char) : Bool :=
  "\\.+*?()|[]{}^$#&-~".toList.contains c

/-- Whether a backslash before a character makes it stand for itself. -/
def isEscapable (c : Char) : Bool :=
  isMeta c || (c.toNat < 0x80 && !c.isAlphanum && c ≠ '<' && c ≠ '>')

/-- Whether a character is a hexadecimal digit. -/
def isHexDigit (c : Char) : Bool :=
  c.isDigit || ('a' ≤ c && c ≤ 'f') || ('A' ≤ c && c ≤ 'F')

/-- The value of a hexadecimal digit. -/
def hexValue (c : Char) : Nat :=
  if c.isDigit then c.toNat - '0'.toNat
  else if 'a' ≤ c then c.toNat - 'a'.toNat + 10
  else c.toNat - 'A'.toNat + 10

/-- The character with a code point written in hexadecimal digits. -/
def hexChar? (digits : Text) : Option Char :=
  let n := digits.foldl (fun n c => 16 * n + hexValue c) 0
  if n.isValidChar then some (Char.ofNat n) else none

/-- Reads a fixed number of hexadecimal digits, the cursor on the first. -/
def hexDigits : (count : Nat) → (isFirst : Bool) → Reader Text
  | 0, _ => return []
  | count + 1, isFirst => do
    if !isFirst then
      if !(← advanceSkip) then fail .escapeUnfinished (← here)
    match ← next? with
    | none => fail .escapeUnfinished (← here)
    | some c =>
      if !isHexDigit c then fail .hexDigitInvalid (← nextSpan)
      return c :: (← hexDigits count false)

/-- Reads the rest of a character written by its code point; `start` is the place of the
backslash and the cursor stands on the letter after it. -/
def hexLiteral (start : Nat) (letter : Char) : Reader Literal := do
  let count := if letter = 'x' then 2 else if letter = 'u' then 4 else 8
  if !(← advanceSkip) then fail .escapeUnfinished (← here)
  if ← isNext '{' then
    let brace ← position
    discard advanceSkip
    let digits ← collectSkip isHexDigit
    match ← next? with
    | none => fail .escapeUnfinished (← since brace)
    | some c =>
      if c ≠ '}' then fail .hexDigitInvalid (← nextSpan)
      let last ← position
      discard advanceSkip
      if digits.isEmpty then fail .hexEmpty (← since brace)
      match hexChar? digits with
      | none => fail .hexInvalid ⟨brace + 1, last⟩
      | some c => return { span := ← since start, char := c }
  else
    let first ← position
    let digits ← hexDigits count true
    discard advanceSkip
    match hexChar? digits with
    | none => fail .hexInvalid (← since first)
    | some c => return { span := ← since start, char := c, isByte := letter = 'x' }

/-- Splits the name of a property class at its operator. -/
def propertyName (name : Text) : PropertyName :=
  let rec unequal : Text → Option (Text × Text)
    | '!' :: '=' :: rest => some ([], rest)
    | c :: rest => (unequal rest).map fun (a, b) => (c :: a, b)
    | [] => none
  match unequal name with
  | some (p, v) => .valued p v true
  | none =>
    match (Text.splitOnce ':' name).orElse fun _ => Text.splitOnce '=' name with
    | some (p, v) => .valued p v false
    | none => .single name

/-- Reads the rest of a property class, the cursor on its letter. -/
def propertyClass (start : Nat) (negated : Bool) : Reader Tree := do
  if !(← advanceSkip) then fail .escapeUnfinished (← here)
  match ← next? with
  | none => fail .escapeUnfinished (← here)
  | some '{' =>
    discard advanceSkip
    let name ← collectSkip (· ≠ '}')
    if ← atEnd then fail .escapeUnfinished (← here)
    advance
    return .property (propertyName name) negated (← since start)
  | some '\\' => fail .propertyClassInvalid (← nextSpan)
  | some c =>
    discard advanceSkip
    return .property (.single [c]) negated (← since start)

/-- Reads the name in braces that may follow `\b`, the cursor on the opening brace. Anything but a
name is left to be read as a repetition count. -/
def boundaryName? (start : Nat) : Reader (Option Assertion) := do
  let isNameChar (c : Char) := c.isAlpha || c = '-'
  let before ← get
  let brace ← position
  if !(← advanceSkip) then fail .boundaryUnfinished (← since start)
  let first ← position
  match ← next? with
  | none => return none
  | some c =>
    if !isNameChar c then
      set before
      return none
    else
      let name ← collectSkip isNameChar
      if !(← isNext '}') then fail .boundaryUnclosed (← since brace)
      let place ← since first
      advance
      match String.ofList name with
      | "start" => return some .wordStart
      | "end" => return some .wordEnd
      | "start-half" => return some .wordStartHalf
      | "end-half" => return some .wordEndHalf
      | _ => fail .boundaryUnknown place

/-- Reads an escape, the cursor on the backslash. -/
def escape : Reader Tree := do
  let start ← position
  advance
  match ← next? with
  | none => fail .escapeUnfinished (← since start)
  | some c =>
    if c.isDigit then fail .backreference ⟨start, (← nextSpan).last⟩
    else if c = 'x' || c = 'u' || c = 'U' then return .literal (← hexLiteral start c)
    else if c = 'p' || c = 'P' then propertyClass start (c = 'P')
    else
      advance
      let span ← since start
      let special (c : Char) : Reader Tree := return .literal { span := span, char := c }
      if isEscapable c then special c
      else
        match c with
        | 'd' => return .shorthand .digit false span
        | 'D' => return .shorthand .digit true span
        | 's' => return .shorthand .space false span
        | 'S' => return .shorthand .space true span
        | 'w' => return .shorthand .word false span
        | 'W' => return .shorthand .word true span
        | 'a' => special '\x07'
        | 'f' => special '\x0C'
        | 't' => special '\t'
        | 'n' => special '\n'
        | 'r' => special '\r'
        | 'v' => special '\x0B'
        | 'A' => return .assertion .startText span
        | 'z' => return .assertion .endText span
        | 'B' => return .assertion .notWordBoundary span
        | '<' => return .assertion .wordStart span
        | '>' => return .assertion .wordEnd span
        | 'b' =>
          if ← isNext '{' then
            match ← boundaryName? start with
            | some kind => return .assertion kind (← since start)
            | none => return .assertion .wordBoundary span
          else return .assertion .wordBoundary span
        | _ => fail .escapeUnknown span

/-- Reads one part that is no group, no class and no operator. -/
def primitive (c : Char) : Reader Tree := do
  let span ← nextSpan
  if c = '\\' then escape
  else
    advance
    if c = '.' then return .dot span
    else if c = '^' then return .assertion .startLine span
    else if c = '$' then return .assertion .endLine span
    else return .literal { span := span, char := c }

end Reader

end VirtualTerminal.Regex
