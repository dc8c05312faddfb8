/-!
# Words

Integers of sixty-four bits with a sign: what a column of whole numbers holds. Main definition:
`fitsWord`.
-/

namespace AccountPortal

/-- Two to the power of sixty-three. -/
def wordBound : Int := 9223372036854775808

def fitsWord (n : Int) : Bool := -wordBound ≤ n && n < wordBound

theorem fitsWord_iff (n : Int) : fitsWord n = true ↔ -wordBound ≤ n ∧ n < wordBound := by
  simp [fitsWord]

end AccountPortal
