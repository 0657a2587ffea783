import VirtualTerminal.Unicode.CaseTable
import VirtualTerminal.Unicode.CategoryTable

/-!
# Case of single characters

`lowerChar` is the lower case form of a character where that form is a single character, and
`caseVariants` lists the characters that differ from a character in case only.
-/

namespace VirtualTerminal.Unicode

/-- The code point that the lower case table maps `n` to, or `n` itself. -/
def lowerCode (n : Nat) : Nat :=
  (lowercaseRuns.findSome? (·.image? n)).getD n

/-- The lower case form of a character whose form is a single character. -/
def lowerChar (c : Char) : Char :=
  if c.toNat < 0x80 then c.toLower else Char.ofNat (lowerCode c.toNat)

/-- The code point that stands for all code points that are equal when case is ignored. -/
def foldCode (n : Nat) : Nat :=
  (extraFolds.lookup n).getD (lowerCode n)

/-- The characters that are equal to `c` when case is ignored, `c` among them. -/
def caseVariants (c : Char) : List Char :=
  let representative := foldCode c.toNat
  let lowered := lowercaseRuns.filterMap (·.source? representative)
  let extra := (extraFolds.filter (·.2 == representative)).map (·.1)
  c :: (representative :: (lowered ++ extra)).map Char.ofNat

/-- Whether a character is an upper case, lower case or titlecase letter or counts as one. -/
def isCased (c : Char) : Bool :=
  let n := c.toNat
  casedPairs.contains n || unpairedUpper.contains n || unpairedLower.contains n ||
    titlecaseLetter.contains n || otherLowercase.contains n || otherUppercase.contains n

/-- Whether a character is passed over when the case of its neighbours is examined. -/
def isCaseIgnorable (c : Char) : Bool :=
  let n := c.toNat
  nonspacingMark.contains n || enclosingMark.contains n || format.contains n ||
    modifierLetter.contains n || modifierSymbol.contains n || midWord.contains n

/-- Whether a character is a letter or counts as one. -/
def isAlphabetic (c : Char) : Bool :=
  let n := c.toNat
  casedPairs.contains n || unpairedUpper.contains n || unpairedLower.contains n ||
    titlecaseLetter.contains n || modifierLetter.contains n || otherLetter.contains n ||
    letterNumber.contains n || otherAlphabetic.contains n

/-- Whether a character is a number of any kind. -/
def isNumeric (c : Char) : Bool :=
  let n := c.toNat
  decimalNumber.contains n || letterNumber.contains n || otherNumber.contains n

end VirtualTerminal.Unicode
