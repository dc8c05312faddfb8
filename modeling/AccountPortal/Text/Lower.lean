import AccountPortal.Text.LowerTable
import AccountPortal.Text.CaseContext

/-!
# Lower case

Full lower-casing of Unicode 14: one letter for one, save that the dotted capital I becomes an i
with a dot above, and a capital sigma that ends a word becomes a final sigma. Main definitions:
`lowerChars`, `lower`, `asciiLower`.
-/

namespace AccountPortal

def isCaseIgnorable (c : Char) : Bool := inRanges caseIgnorableRanges c

def isCased (c : Char) : Bool := inRanges casedRanges c

/-- The lower case of a character wherever it stands. -/
def lowerChar (c : Char) : List Char :=
  if c = 'İ' then ['i', '\u0307']
  else match lowerRuns.find? (·.has c.toNat) with
    | some run => [Char.ofNat (run.apply c.toNat)]
    | none => [c]

/-- Whether a letter with case comes next, ignorable characters looked past. -/
def startsCased (cs : List Char) : Bool :=
  match cs.dropWhile isCaseIgnorable with
  | [] => false
  | c :: _ => isCased c

/-- `afterCased` tells whether the last character that is not ignorable was a letter with case. -/
def lowerFrom (afterCased : Bool) : List Char → List Char
  | [] => []
  | c :: rest =>
    let here := if c = 'Σ' && afterCased && !startsCased rest then ['ς'] else lowerChar c
    here ++ lowerFrom (if isCaseIgnorable c then afterCased else isCased c) rest

def lowerChars (cs : List Char) : List Char := lowerFrom false cs

def lower (s : String) : String := String.ofList (lowerChars s.toList)

/-! ## ASCII -/

def asciiLowerChar (c : Char) : Char :=
  if 'A' ≤ c ∧ c ≤ 'Z' then Char.ofNat (c.toNat + 32) else c

/-- Folds A to Z and leaves every other character alone. -/
def asciiLower (s : String) : String := String.ofList (s.toList.map asciiLowerChar)

end AccountPortal
