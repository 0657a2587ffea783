import VirtualTerminal.Config.Setting

/-!
# Scalars and keys of TOML

Strings, numbers, dates and keys. A reader either reads something from the start of a text and
leaves the rest, or refuses the text.
-/

namespace VirtualTerminal.Toml

/-- A step of reading a TOML text. -/
abbrev Reader := StateT Text Option

namespace Reader

/-- Refuses the text. -/
def refuse : Reader α :=
  fun _ => none

/-- The next character. -/
def next? : Reader (Option Char) :=
  return (← get).head?

/-- Reads a character that passes a test. -/
def one (p : Char → Bool) : Reader Char := do
  match ← get with
  | c :: rest =>
    if p c then
      set rest
      return c
    else refuse
  | [] => refuse

/-- Reads a given text. -/
def exactly (lead : Text) : Reader Unit := do
  match Text.stripPrefix? lead (← get) with
  | some rest => set rest
  | none => refuse

/-- Reads a given text if it comes next. -/
def accept (lead : Text) : Reader Bool := do
  match Text.stripPrefix? lead (← get) with
  | some rest =>
    set rest
    return true
  | none => return false

/-- Reads all characters up to the first that fails a test. -/
def many (p : Char → Bool) : Reader Text := do
  let s ← get
  set (s.dropWhile p)
  return s.takeWhile p

/-- Reads something if it can be read. -/
def optional (r : Reader α) : Reader (Option α) :=
  fun s =>
    match r s with
    | some (a, rest) => some (some a, rest)
    | none => some (none, s)

/-- Reads blanks inside a line. -/
def blanks : Reader Unit :=
  discard <| many fun c => c = ' ' || c = '\t'

/-- Whether a character may stand in a comment. -/
def isCommentChar (c : Char) : Bool :=
  c = '\t' || (0x20 ≤ c.toNat && c.toNat ≠ 0x7F)

/-- Reads a comment. -/
def comment : Reader Unit := do
  exactly ['#']
  discard <| many isCommentChar

/-- Reads the end of a line. -/
def newline : Reader Unit := do
  discard <| accept ['\r']
  exactly ['\n']

/-- Reads blanks and a comment up to the end of a line or of the text. -/
def lineEnd : Reader Unit := do
  blanks
  discard <| optional comment
  if !(← get).isEmpty then newline

/-! ## Strings -/

/-- The value of a hexadecimal digit. -/
def hexValue? (c : Char) : Option Nat :=
  if c.isDigit then some (c.toNat - '0'.toNat)
  else if 'a' ≤ c && c ≤ 'f' then some (c.toNat - 'a'.toNat + 10)
  else if 'A' ≤ c && c ≤ 'F' then some (c.toNat - 'A'.toNat + 10)
  else none

/-- Reads a code point of `count` hexadecimal digits. -/
def codePoint : (count value : Nat) → Reader Char
  | 0, value => if value.isValidChar then return Char.ofNat value else refuse
  | count + 1, value => do
    match hexValue? (← one fun _ => true) with
    | some d => codePoint count (16 * value + d)
    | none => refuse

/-- Reads what follows the backslash of an escape. -/
def escape : Reader Char := do
  match ← one fun _ => true with
  | 'b' => return '\x08'
  | 't' => return '\t'
  | 'n' => return '\n'
  | 'f' => return '\x0C'
  | 'r' => return '\r'
  | '"' => return '"'
  | '\\' => return '\\'
  | 'u' => codePoint 4 0
  | 'U' => codePoint 8 0
  | _ => refuse

/-- Whether a character may stand in a string as itself. -/
def isPlain (c : Char) : Bool :=
  isCommentChar c

/-- Reads a basic string up to its closing quote. -/
def basicRest : (fuel : Nat) → Reader Text
  | 0 => refuse
  | fuel + 1 => do
    match ← one isPlain with
    | '"' => return []
    | '\\' =>
      let c ← escape
      return c :: (← basicRest fuel)
    | c => return c :: (← basicRest fuel)

/-- Reads a literal string up to its closing quote. -/
def literalRest : Reader Text := do
  let body ← many fun c => isPlain c && c ≠ '\''
  exactly ['\'']
  return body

/-- Reads the quotes at the start of a text that spans lines, at most five: fewer than three belong
to the text, and of more the last three close it. Gives the quotes of the text, and whether it is
closed. -/
def lineQuotes (quote : Char) : Reader (Text × Bool) := do
  let run := ((← get).takeWhile (· = quote)).take 5
  set ((← get).drop run.length)
  if run.length < 3 then return (run, false) else return (run.drop 3, true)

/-- Reads the blanks and line ends after a backslash that ends a line. -/
def joinLines : Reader Unit := do
  blanks
  newline
  let rec skip : Text → Text
    | ' ' :: rest | '\t' :: rest | '\n' :: rest => skip rest
    | '\r' :: '\n' :: rest => skip rest
    | s => s
  modify skip

/-- Reads a string that spans lines up to its closing quotes. -/
def linesRest (quote : Char) (escapes : Bool) : (fuel : Nat) → Reader Text
  | 0 => refuse
  | fuel + 1 => do
    match ← next? with
    | none => refuse
    | some c =>
      if c = quote then
        let (quotes, closed) ← lineQuotes quote
        if closed then return quotes else return quotes ++ (← linesRest quote escapes fuel)
      else if c = '\n' || c = '\r' then
        newline
        return '\n' :: (← linesRest quote escapes fuel)
      else if c = '\\' && escapes then
        exactly ['\\']
        match ← optional joinLines with
        | some () => linesRest quote escapes fuel
        | none =>
          let d ← escape
          return d :: (← linesRest quote escapes fuel)
      else
        let d ← one isPlain
        return d :: (← linesRest quote escapes fuel)

/-- Reads a string that stands on one line. -/
def lineString : Reader Text := do
  if ← accept ['"'] then basicRest ((← get).length + 1)
  else
    exactly ['\'']
    literalRest

/-- Reads a string. -/
def string : Reader Text := do
  let fuel := (← get).length + 1
  if ← accept "\"\"\"".toList then
    discard <| optional newline
    linesRest '"' true fuel
  else if ← accept "'''".toList then
    discard <| optional newline
    linesRest '\'' false fuel
  else lineString

/-! ## Keys -/

/-- Whether a character may stand in a key without quotes. -/
def isBare (c : Char) : Bool :=
  c.isAlphanum || c = '_' || c = '-'

/-- Reads one part of a key. -/
def keyPart : Reader Text := do
  match ← next? with
  | some '"' | some '\'' => lineString
  | _ =>
    let name ← many isBare
    if name.isEmpty then refuse else return name

/-- Reads the parts of a key after its first part. -/
def keyRest : (fuel : Nat) → Reader (List Text)
  | 0 => return []
  | fuel + 1 => do
    blanks
    if ← accept ['.'] then
      blanks
      let part ← keyPart
      return part :: (← keyRest fuel)
    else return []

/-- The most parts of a key, and the most arrays and tables in one another. -/
def depthLimit : Nat := 80

/-- Reads a key and the blanks around it: the parts before the last one, and the last one. -/
def key : Reader (List Text × Text) := do
  blanks
  let first ← keyPart
  let parts := first :: (← keyRest (← get).length)
  if depthLimit ≤ parts.length then refuse
  match parts.getLast? with
  | some last => return (parts.dropLast, last)
  | none => refuse

/-! ## Numbers and dates -/

/-- Reads digits with single low lines between them. -/
def digits (p : Char → Bool) : Reader Text := do
  let run ← many fun c => p c || c = '_'
  let rec isSeparated : (afterDigit : Bool) → Text → Bool
    | afterDigit, [] => afterDigit
    | afterDigit, c :: rest => if c = '_' then afterDigit && isSeparated false rest else isSeparated true rest
  if isSeparated false run then return run.filter (· ≠ '_') else refuse

/-- Reads a sign. -/
def sign : Reader Bool := do
  if ← accept ['-'] then return true
  discard <| accept ['+']
  return false

/-- The number that digits of a base stand for. -/
def value (base : Nat) (ds : Text) : Nat :=
  ds.foldl (fun n c => base * n + (hexValue? c).getD 0) 0

/-- Reads the digits of a decimal number, which start with a zero only if it is the whole number. -/
def decimal : Reader Text := do
  let ds ← digits Char.isDigit
  if ds.head? = some '0' ∧ 1 < ds.length then refuse else return ds

/-- A number that fits in 64 bits with a sign. -/
def bounded (n : Int) : Reader Setting :=
  if -0x8000000000000000 ≤ n ∧ n < 0x8000000000000000 then return .integer n else refuse

/-- Reads an integer. -/
def integer : Reader Setting := do
  if ← accept "0x".toList then bounded (value 16 (← digits fun c => (hexValue? c).isSome))
  else if ← accept "0o".toList then bounded (value 8 (← digits fun c => '0' ≤ c && c ≤ '7'))
  else if ← accept "0b".toList then bounded (value 2 (← digits fun c => c = '0' || c = '1'))
  else
    let negative ← sign
    let n : Int := value 10 (← decimal)
    bounded (if negative then -n else n)

/-- Reads an exponent. -/
def exponent : Reader Unit := do
  discard <| one fun c => c = 'e' || c = 'E'
  discard sign
  discard <| digits Char.isDigit

/-- Reads a number with a fraction or an exponent. -/
def float : Reader Setting := do
  discard sign
  if (← accept "inf".toList) || (← accept "nan".toList) then return .other
  discard decimal
  if ← accept ['.'] then
    discard <| digits Char.isDigit
    discard <| optional exponent
  else exponent
  return .other

/-- Reads a number of exactly `count` digits between two bounds. -/
def fixed (count least most : Nat) : Reader Nat := do
  let ds := (← get).take count
  if ds.length = count ∧ ds.all Char.isDigit then
    set ((← get).drop count)
    let n := value 10 ds
    if least ≤ n ∧ n ≤ most then return n else refuse
  else refuse

/-- The number of days of a month. -/
def daysOf (year month : Nat) : Nat :=
  if month = 2 then
    if year % 4 = 0 ∧ (year % 100 ≠ 0 ∨ year % 400 = 0) then 29 else 28
  else if month = 4 ∨ month = 6 ∨ month = 9 ∨ month = 11 then 30
  else 31

/-- Reads a date. -/
def date : Reader Unit := do
  let year ← fixed 4 0 9999
  exactly ['-']
  let month ← fixed 2 1 12
  exactly ['-']
  discard <| fixed 2 1 (daysOf year month)

/-- Reads a time of day. -/
def time : Reader Unit := do
  discard <| fixed 2 0 23
  exactly [':']
  discard <| fixed 2 0 59
  exactly [':']
  discard <| fixed 2 0 60
  if ← accept ['.'] then
    let ds ← many Char.isDigit
    if ds.isEmpty then refuse

/-- Reads the distance of a time from universal time. -/
def offset : Reader Unit := do
  match ← one fun c => c = 'Z' || c = 'z' || c = '+' || c = '-' with
  | 'Z' | 'z' => return ()
  | _ =>
    discard <| fixed 2 0 23
    exactly [':']
    discard <| fixed 2 0 59

/-- Reads a date, a time or both. It counts as a record whose fields nobody knows. -/
def moment : Reader Setting := do
  match ← optional date with
  | some () =>
    discard <| optional do
      discard <| one fun c => c = 'T' || c = 't' || c = ' '
      time
      discard <| optional offset
  | none => time
  return .record []

/-- Reads a number, a date or a time. -/
def number : Reader Setting := do
  match ← optional moment with
  | some s => return s
  | none =>
    match ← optional float with
    | some s => return s
    | none => integer

end Reader

end VirtualTerminal.Toml
