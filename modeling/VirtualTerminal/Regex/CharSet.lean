import VirtualTerminal.Text.Blank
import VirtualTerminal.Unicode.Case

/-!
# Sets of characters

The sets that patterns speak of, built from ranges of code points, and membership in them.
-/

namespace VirtualTerminal.Regex

open Unicode

/-- A set of characters. -/
inductive CharSet where
  | ranges (rs : Ranges)
  /-- The characters of the ranges whose distance from the start of their range has a parity. -/
  | everySecond (rs : Ranges) (parity : Nat)
  | union (a b : CharSet)
  | inter (a b : CharSet)
  | diff (a b : CharSet)
  | symmDiff (a b : CharSet)
  | compl (a : CharSet)
  /-- The characters that differ from a member in case only. -/
  | caseless (a : CharSet)
  deriving DecidableEq, Repr

namespace CharSet

/-- The set without members. -/
def none : CharSet :=
  ranges []

/-- The set of all characters. -/
def all : CharSet :=
  ranges [(0, 0x10FFFF)]

/-- The characters from one to another one. -/
def between (first last : Char) : CharSet :=
  ranges [(first.toNat, last.toNat)]

/-- The set of one character. -/
def single (c : Char) : CharSet :=
  between c c

/-- Membership. -/
def contains : CharSet → Char → Bool
  | ranges rs, c => rs.contains c.toNat
  | everySecond rs parity, c =>
    rs.any fun (first, last) =>
      first ≤ c.toNat && c.toNat ≤ last && (c.toNat - first) % 2 == parity
  | union a b, c => a.contains c || b.contains c
  | inter a b, c => a.contains c && b.contains c
  | diff a b, c => a.contains c && !b.contains c
  | symmDiff a b, c => a.contains c != b.contains c
  | compl a, c => !a.contains c
  | caseless a, c => (caseVariants c).any a.contains

/-- The union of a list of sets. -/
def unions (sets : List CharSet) : CharSet :=
  sets.foldr union none

/-- An estimate of what a set adds to the size of a compiled expression, by the number of its ranges;
neither ranges that overlap nor the lengths of their encodings are looked at. -/
def weight : CharSet → Nat
  | ranges rs => 5 * rs.length / 2
  | everySecond rs _ => 40 * rs.length
  | union a b => a.weight + b.weight
  | inter a b => min a.weight b.weight
  | diff a b => a.weight + b.weight
  | symmDiff a b => a.weight + b.weight
  | compl a => a.weight + 2
  | caseless a => a.weight + 2

/-! ## General categories -/

/-- Upper case letters. -/
def uppercaseLetters : CharSet :=
  union (everySecond casedPairs 0) (ranges unpairedUpper)

/-- Lower case letters. -/
def lowercaseLetters : CharSet :=
  union (everySecond casedPairs 1) (ranges unpairedLower)

/-- Letters that have case. -/
def casedLetters : CharSet :=
  unions [ranges casedPairs, ranges unpairedUpper, ranges unpairedLower, ranges titlecaseLetter]

/-- Letters. -/
def letters : CharSet :=
  unions [casedLetters, ranges modifierLetter, ranges otherLetter]

/-- Marks. -/
def marks : CharSet :=
  unions [ranges nonspacingMark, ranges spacingMark, ranges enclosingMark]

/-- Numbers. -/
def numbers : CharSet :=
  unions [ranges decimalNumber, ranges letterNumber, ranges otherNumber]

/-- Punctuation. -/
def punctuation : CharSet :=
  unions [ranges connectorPunctuation, ranges dashPunctuation, ranges openPunctuation,
    ranges closePunctuation, ranges initialPunctuation, ranges finalPunctuation,
    ranges otherPunctuation]

/-- Symbols. -/
def symbols : CharSet :=
  unions [ranges mathSymbol, ranges currencySymbol, ranges modifierSymbol, ranges otherSymbol]

/-- Separators. -/
def separators : CharSet :=
  unions [ranges spaceSeparator, ranges lineSeparator, ranges paragraphSeparator]

/-- Characters with an assigned meaning. -/
def assigned : CharSet :=
  unions [letters, marks, numbers, punctuation, symbols, separators, ranges control,
    ranges format, ranges privateUse]

/-! ## Properties -/

/-- Characters that are letters or count as letters. -/
def alphabetic : CharSet :=
  unions [letters, ranges letterNumber, ranges otherAlphabetic]

/-- Characters that are lower case letters or count as such. -/
def lowercase : CharSet :=
  union lowercaseLetters (ranges otherLowercase)

/-- Characters that are upper case letters or count as such. -/
def uppercase : CharSet :=
  union uppercaseLetters (ranges otherUppercase)

/-- White space. -/
def blanks : CharSet :=
  ranges [(9, 13), (0x20, 0x20), (0x85, 0x85), (0xA0, 0xA0), (0x1680, 0x1680), (0x2000, 0x200A),
    (0x2028, 0x2029), (0x202F, 0x202F), (0x205F, 0x205F), (0x3000, 0x3000)]

/-- The characters of words: letters, marks, decimal digits, connectors and joiners. -/
def wordChars : CharSet :=
  unions [alphabetic, marks, ranges decimalNumber, ranges connectorPunctuation,
    ranges [(0x200C, 0x200D)]]

/-- Decimal digits. -/
def digits : CharSet :=
  ranges decimalNumber

/-! ## ASCII classes -/

/-- The ASCII digits. -/
def asciiDigits : CharSet :=
  between '0' '9'

/-- The ASCII characters of words. -/
def asciiWordChars : CharSet :=
  ranges [(0x30, 0x39), (0x41, 0x5A), (0x5F, 0x5F), (0x61, 0x7A)]

/-- The ASCII blanks. -/
def asciiBlanks : CharSet :=
  ranges [(9, 13), (0x20, 0x20)]

/-- The class that stands between `[:` and `:]`. -/
def ofAsciiName? (name : String) : Option CharSet :=
  match name with
  | "alnum" => some (ranges [(0x30, 0x39), (0x41, 0x5A), (0x61, 0x7A)])
  | "alpha" => some (ranges [(0x41, 0x5A), (0x61, 0x7A)])
  | "ascii" => some (ranges [(0, 0x7F)])
  | "blank" => some (ranges [(9, 9), (0x20, 0x20)])
  | "cntrl" => some (ranges [(0, 0x1F), (0x7F, 0x7F)])
  | "digit" => some asciiDigits
  | "graph" => some (ranges [(0x21, 0x7E)])
  | "lower" => some (ranges [(0x61, 0x7A)])
  | "print" => some (ranges [(0x20, 0x7E)])
  | "punct" => some (ranges [(0x21, 0x2F), (0x3A, 0x40), (0x5B, 0x60), (0x7B, 0x7E)])
  | "space" => some asciiBlanks
  | "upper" => some (ranges [(0x41, 0x5A)])
  | "word" => some asciiWordChars
  | "xdigit" => some (ranges [(0x30, 0x39), (0x41, 0x46), (0x61, 0x66)])
  | _ => .none

end CharSet

end VirtualTerminal.Regex
