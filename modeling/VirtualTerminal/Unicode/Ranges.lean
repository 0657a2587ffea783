/-!
# Ranges of code points

A set of characters is kept as a list of inclusive ranges of code points in increasing order.
-/

namespace VirtualTerminal.Unicode

/-- Inclusive ranges of code points, in increasing order and without overlap. -/
abbrev Ranges := List (Nat × Nat)

/-- Whether a code point lies in one of the ranges; the search stops at the first range above it. -/
def Ranges.contains : Ranges → Nat → Bool
  | [], _ => false
  | (first, last) :: rest, n =>
    if n < first then false else if n ≤ last then true else Ranges.contains rest n

end VirtualTerminal.Unicode
