import VirtualTerminal.Text.Basic

/-!
# Base64

Bytes written as symbols of six bits each, in groups of four symbols for three bytes. The last group
is padded to four symbols. Reading is strict: the padding has to be there, and the bits of the last
symbol that belong to no byte have to be zero.
-/

namespace VirtualTerminal.Base64

/-- The symbols, in the order of their values. -/
def alphabet : Text :=
  "ABCDEFGHIJKLMNOPQRSTUVWXYZabcdefghijklmnopqrstuvwxyz0123456789+/".toList

/-- The symbol of a value below 64. -/
def symbol (n : Nat) : Char :=
  alphabet.getD n '='

/-- The symbols of bytes, padded. -/
def encode : List UInt8 → Text
  | [] => []
  | [a] =>
    let n := a.toNat
    [symbol (n / 4), symbol (n % 4 * 16), '=', '=']
  | [a, b] =>
    let n := a.toNat * 256 + b.toNat
    [symbol (n / 1024), symbol (n / 16 % 64), symbol (n % 16 * 4), '=']
  | a :: b :: c :: rest =>
    let n := (a.toNat * 256 + b.toNat) * 256 + c.toNat
    [symbol (n / 262144), symbol (n / 4096 % 64), symbol (n / 64 % 64), symbol (n % 64)] ++
      encode rest

/-! ## Reading -/

/-- Why bytes cannot be read. -/
inductive Fault where
  /-- A byte at an offset is no symbol, or a pad where none may stand. -/
  | badSymbol (byte : UInt8) (offset : Nat)
  /-- The input ends after one symbol of a group. -/
  | badLength (length : Nat)
  /-- The last symbol carries bits that belong to no byte. -/
  | badLastSymbol (byte : UInt8) (offset : Nat)
  | badPadding
  deriving DecidableEq, Repr

/-- The wording of a fault. -/
def Fault.message : Fault → Text
  | badSymbol byte offset =>
    "Invalid symbol ".toList ++ Text.ofNat byte.toNat ++ ", offset ".toList ++ Text.ofNat offset ++
      ['.']
  | badLength length => "Invalid input length: ".toList ++ Text.ofNat length
  | badLastSymbol byte offset =>
    "Invalid last symbol ".toList ++ Text.ofNat byte.toNat ++ ", offset ".toList ++
      Text.ofNat offset ++ ['.']
  | badPadding => "Invalid padding".toList

/-- The byte that fills up the last group. -/
def pad : UInt8 := 61

/-- The value of a symbol. -/
def value? (byte : UInt8) : Option Nat :=
  let c := Char.ofNat byte.toNat
  if c.isUpper then some (c.toNat - 'A'.toNat)
  else if c.isLower then some (26 + (c.toNat - 'a'.toNat))
  else if c.isDigit then some (52 + (c.toNat - '0'.toNat))
  else if c = '+' then some 62
  else if c = '/' then some 63
  else none

/-- The value of the symbol at an offset. -/
def valueAt (offset : Nat) (byte : UInt8) : Except Fault Nat :=
  match value? byte with
  | some n => .ok n
  | none => .error (.badSymbol byte offset)

/-- The values of the symbols of the last group, which starts at `offset`, and the number of pads
after them. `index` symbols of the group have been read before. -/
def lastValues (offset : Nat) : (index : Nat) → List UInt8 → Except Fault (List Nat × Nat)
  | _, [] => .ok ([], 0)
  | index, b :: rest =>
    if b = pad then
      if index < 2 ∨ rest.any (· ≠ pad) then .error (.badSymbol pad (offset + index))
      else .ok ([], 1 + rest.length)
    else do
      let n ← valueAt (offset + index) b
      let (ns, pads) ← lastValues offset (index + 1) rest
      return (n :: ns, pads)

/-- The bytes of the last group, which starts at `offset`. -/
def decodeLast (offset : Nat) (group : List UInt8) : Except Fault (List UInt8) := do
  let (values, pads) ← lastValues offset 0 group
  let trailing (bits : Nat) (bytes : List Nat) : Except Fault (List UInt8) :=
    if (values.length + pads) % 4 ≠ 0 then .error .badPadding
    else if bits ≠ 0 then
      .error (.badLastSymbol (group.getD (values.length - 1) 0) (offset + values.length - 1))
    else .ok (bytes.map Nat.toUInt8)
  match values with
  | [] => .ok []
  | [_] => .error (.badLength (offset + 1))
  | [a, b] => trailing (b % 16) [a * 4 + b / 16]
  | [a, b, c] => trailing (c % 4) [a * 4 + b / 16, b % 16 * 16 + c / 4]
  | a :: b :: c :: d :: _ => trailing 0 [a * 4 + b / 16, b % 16 * 16 + c / 4, c % 4 * 64 + d]

/-- The bytes of the groups from `offset` on. -/
def decodeGroups (offset : Nat) : List UInt8 → Except Fault (List UInt8)
  | a :: b :: c :: d :: e :: rest => do
    let a ← valueAt offset a
    let b ← valueAt (offset + 1) b
    let c ← valueAt (offset + 2) c
    let d ← valueAt (offset + 3) d
    let more ← decodeGroups (offset + 4) (e :: rest)
    return (a * 4 + b / 16).toUInt8 :: (b % 16 * 16 + c / 4).toUInt8 ::
      (c % 4 * 64 + d).toUInt8 :: more
  | last => decodeLast offset last

/-- The bytes that symbols stand for. A stray last byte that is no symbol is reported before
anything else. -/
def decode (symbols : List UInt8) : Except Fault (List UInt8) :=
  match symbols.getLast? with
  | none => .ok []
  | some last =>
    if symbols.length % 4 = 1 ∧ last ≠ pad ∧ value? last = none then
      .error (.badSymbol last (symbols.length - 1))
    else decodeGroups 0 symbols

end VirtualTerminal.Base64
