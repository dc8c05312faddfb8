import AccountPortal.Number.Numeral
import AccountPortal.Text.Digit

/-!
# Figures

Integers and numbers in the decimal digits of any script, with blanks around them, a sign, and
single underscores between digits. Unlike a numeral, an integer has no point, and zeros that lead it
count among its digits. Main definitions: `Figure.integer`, `Figure.isNumber`.
-/

namespace AccountPortal.Figure

def isAsciiBlank (c : Char) : Bool := 0x9 ≤ c.toNat && c.toNat ≤ 0xD || c == ' '

/-- Beyond ASCII every blank is a space, and a digit is the ASCII digit of its value. -/
def plainChar (c : Char) : Char :=
  if c.toNat < 128 then c
  else if isBlank c then ' '
  else match digitValue? c with
    | some d => Char.ofNat (48 + d)
    | none => c

def plainChars (s : String) : List Char := trimChars isAsciiBlank (s.toList.map plainChar)

/-! ## Integers -/

inductive Fault where
  | unreadable
  /-- More digits than are read. -/
  | overlong (digits : Nat)
  deriving DecidableEq

/-- The digits at the front are counted before anything is said of what follows them. -/
def integer (s : String) : Except Fault Int :=
  let (negative, cs) := Numeral.signed (plainChars s)
  let front := cs.takeWhile fun c => Numeral.isDigit c || c == '_'
  match Numeral.ungrouped? front with
  | none => .error .unreadable
  | some digits =>
    if digits.length > Numeral.maxDigits then .error (.overlong digits.length)
    else if front.length < cs.length then .error .unreadable
    else
      let n := Numeral.digitsValue digits
      .ok (if negative then -(n : Int) else n)

/-! ## Numbers -/

/-- The text without its underscores, each of which stands between two digits. -/
def ungroupedAfter? (previous : Char) : List Char → Option (List Char)
  | [] => some []
  | '_' :: c :: rest =>
    if Numeral.isDigit previous && Numeral.isDigit c then (ungroupedAfter? c rest).map (c :: ·)
    else none
  | c :: rest => if c = '_' then none else (ungroupedAfter? c rest).map (c :: ·)

/-- Whether the text is a number, infinite and undefined ones among them. -/
def isNumber (s : String) : Bool :=
  ((ungroupedAfter? ' ' (plainChars s)).bind Numeral.plainDecimal?).isSome

end AccountPortal.Figure
