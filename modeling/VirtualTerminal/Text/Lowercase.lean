import VirtualTerminal.Text.Basic
import VirtualTerminal.Unicode.Case

/-!
# Lower case of texts

Every character maps to its own lower case form but for two rules. The capital I with a dot has a
lower case form of two characters. The capital sigma becomes a final sigma at the end of a word:
a cased character stands before it and none after it, characters that ignore case passed over.
-/

namespace VirtualTerminal.Text

open Unicode

/-- Whether the first character that does not ignore case is a cased one. -/
def reachesCased (s : Text) : Bool :=
  match s.dropWhile isCaseIgnorable with
  | [] => false
  | c :: _ => isCased c

/-- The lower case form of the capital sigma between `before`, which is reversed, and `after`. -/
def lowerSigma (before after : Text) : Char :=
  if reachesCased before && !reachesCased after then 'ς' else 'σ'

/-- The lower case form of what follows the reversed text `before`. -/
def lowerAfter (before : Text) : Text → Text
  | [] => []
  | c :: rest =>
    let form :=
      if c = 'Σ' then [lowerSigma before rest]
      else if c = 'İ' then ['i', '\u0307']
      else [lowerChar c]
    form ++ lowerAfter (c :: before) rest

/-- The lower case form of a text. -/
def lower (s : Text) : Text :=
  lowerAfter [] s

/-- The upper case form of the ASCII letters of a text; all else is kept. -/
def upperAscii (s : Text) : Text :=
  s.map Char.toUpper

/-- The lower case form of the ASCII letters of a text; all else is kept. -/
def lowerAscii (s : Text) : Text :=
  s.map Char.toLower

end VirtualTerminal.Text
