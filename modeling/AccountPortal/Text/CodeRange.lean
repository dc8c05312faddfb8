/-!
# Ranges of code points

A character class is a list of closed ranges of code points in increasing order. Main definition:
`inRanges`.
-/

namespace AccountPortal

/-- First and last code point. -/
abbrev CodeRange := Nat × Nat

def CodeRange.has (n : Nat) (r : CodeRange) : Bool := r.1 ≤ n && n ≤ r.2

def inRanges (ranges : List CodeRange) (c : Char) : Bool := ranges.any (CodeRange.has c.toNat)

end AccountPortal
