import VirtualTerminal.Text.Basic

/-!
# Reading decimal numbers
-/

namespace VirtualTerminal.Text

/-- The number that a text of ASCII digits stands for. -/
def valueOfDigits (s : Text) : Nat :=
  s.foldl (fun n c => 10 * n + (c.toNat - '0'.toNat)) 0

/-- A text without one leading plus sign. -/
def dropPlus : Text → Text
  | '+' :: rest => rest
  | s => s

/-- The number below `bound` that a text of at least one ASCII digit stands for. A plus sign may
stand before the digits. -/
def toNat? (bound : Nat) (s : Text) : Option Nat :=
  let digits := dropPlus s
  let n := valueOfDigits digits
  if digits ≠ [] ∧ digits.all Char.isDigit ∧ n < bound then some n else none

end VirtualTerminal.Text
