import VirtualTerminal.Text.Basic

/-!
# The UTF-8 form of texts

`encode` writes a text as bytes. `decode?` reads bytes that are well formed, and `decodeLossy`
reads any bytes: each longest ill formed piece that starts like a character becomes one
replacement character.
-/

namespace VirtualTerminal.Text

/-- The bytes of one character. -/
def encodeChar (c : Char) : List UInt8 :=
  let n := c.toNat
  if n < 0x80 then [n.toUInt8]
  else if n < 0x800 then [(0xC0 + n / 0x40).toUInt8, (0x80 + n % 0x40).toUInt8]
  else if n < 0x10000 then
    [(0xE0 + n / 0x1000).toUInt8, (0x80 + n / 0x40 % 0x40).toUInt8, (0x80 + n % 0x40).toUInt8]
  else
    [(0xF0 + n / 0x40000).toUInt8, (0x80 + n / 0x1000 % 0x40).toUInt8,
      (0x80 + n / 0x40 % 0x40).toUInt8, (0x80 + n % 0x40).toUInt8]

/-- The bytes of a text. -/
def encode (s : Text) : List UInt8 :=
  s.flatMap encodeChar

/-- What stands at the start of a sequence of bytes. -/
inductive Front where
  /-- A character and the number of bytes that hold it. -/
  | char (c : Char) (size : Nat)
  /-- A piece of `size` bytes that no character starts with or continues as. -/
  | malformed (size : Nat)

/-- Whether a byte continues a character. -/
def isTail (b : UInt8) : Bool :=
  0x80 ≤ b && b ≤ 0xBF

/-- The six bits that a continuing byte carries. -/
def tailBits (b : UInt8) : Nat :=
  b.toNat - 0x80

/-- The range of the second byte after the lead byte `b` of a longer character. -/
def secondRange (b : UInt8) : UInt8 × UInt8 :=
  if b = 0xE0 then (0xA0, 0xBF)
  else if b = 0xED then (0x80, 0x9F)
  else if b = 0xF0 then (0x90, 0xBF)
  else if b = 0xF4 then (0x80, 0x8F)
  else (0x80, 0xBF)

/-- The character, or the ill formed piece, that a byte and the bytes after it start with. -/
def front (b : UInt8) (rest : List UInt8) : Front :=
  if b < 0x80 then .char (Char.ofNat b.toNat) 1
  else if b < 0xC2 || 0xF4 < b then .malformed 1
  else
    match rest with
    | [] => .malformed 1
    | b₁ :: rest =>
      let (low, high) := secondRange b
      if b₁ < low || high < b₁ then .malformed 1
      else if b < 0xE0 then .char (Char.ofNat ((b.toNat - 0xC0) * 0x40 + tailBits b₁)) 2
      else
        match rest with
        | [] => .malformed 2
        | b₂ :: rest =>
          if !isTail b₂ then .malformed 2
          else if b < 0xF0 then
            .char (Char.ofNat ((b.toNat - 0xE0) * 0x1000 + tailBits b₁ * 0x40 + tailBits b₂)) 3
          else
            match rest with
            | [] => .malformed 3
            | b₃ :: _ =>
              if !isTail b₃ then .malformed 3
              else
                .char (Char.ofNat ((b.toNat - 0xF0) * 0x40000 + tailBits b₁ * 0x1000 +
                  tailBits b₂ * 0x40 + tailBits b₃)) 4

/-- The text that the bytes are the UTF-8 form of, if there is one. The first `skip` bytes belong to
a character read before. -/
def decodeFrom? : (skip : Nat) → List UInt8 → Option Text
  | _, [] => some []
  | skip + 1, _ :: rest => decodeFrom? skip rest
  | 0, b :: rest =>
    match front b rest with
    | .char c size => (decodeFrom? (size - 1) rest).map (c :: ·)
    | .malformed _ => none

/-- The text that the bytes are the UTF-8 form of, if there is one. -/
def decode? (bytes : List UInt8) : Option Text :=
  decodeFrom? 0 bytes

/-- The text of the bytes after the first `skip`, with U+FFFD for every ill formed piece. -/
def decodeLossyFrom : (skip : Nat) → List UInt8 → Text
  | _, [] => []
  | skip + 1, _ :: rest => decodeLossyFrom skip rest
  | 0, b :: rest =>
    match front b rest with
    | .char c size => c :: decodeLossyFrom (size - 1) rest
    | .malformed size => '\uFFFD' :: decodeLossyFrom (size - 1) rest

/-- The text of the bytes, with U+FFFD for every ill formed piece. -/
def decodeLossy (bytes : List UInt8) : Text :=
  decodeLossyFrom 0 bytes

end VirtualTerminal.Text
