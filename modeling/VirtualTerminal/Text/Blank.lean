import VirtualTerminal.Text.Basic

/-!
# Blank characters

The characters that separate words, and the functions that cut a text at them.
-/

namespace VirtualTerminal

/-- Whether a character is white space: the controls from tab to carriage return, the next line
control, the spaces and the line and paragraph separators. -/
def isBlank (c : Char) : Bool :=
  let n := c.toNat
  (9 ≤ n && n ≤ 13) || n == 0x20 || n == 0x85 || n == 0xA0 || n == 0x1680 ||
    (0x2000 ≤ n && n ≤ 0x200A) || n == 0x2028 || n == 0x2029 || n == 0x202F || n == 0x205F ||
    n == 0x3000

namespace Text

/-- A text without its leading blanks. -/
def trimStart (s : Text) : Text :=
  s.dropWhile isBlank

/-- A text without its trailing blanks. -/
def trimEnd (s : Text) : Text :=
  (s.reverse.dropWhile isBlank).reverse

/-- A text without its leading and trailing blanks. -/
def trim (s : Text) : Text :=
  trimEnd (trimStart s)

/-- The first word of a text that does not start with a blank, and what follows the word. -/
def firstWord (s : Text) : Text × Text :=
  (s.takeWhile (!isBlank ·), s.dropWhile (!isBlank ·))

/-- The maximal runs of characters that are not blank. -/
def words : Text → List Text
  | [] => []
  | c :: rest =>
    if isBlank c then words rest
    else
      match rest, words rest with
      | [], _ => [[c]]
      | d :: _, ws =>
        if isBlank d then [c] :: ws
        else
          match ws with
          | [] => [[c]]
          | w :: ws => (c :: w) :: ws

/-- The parts before and after the last blank. -/
def splitLastBlank : Text → Option (Text × Text)
  | [] => none
  | c :: rest =>
    match splitLastBlank rest with
    | some (a, b) => some (c :: a, b)
    | none => if isBlank c then some ([], rest) else none

end Text

end VirtualTerminal
