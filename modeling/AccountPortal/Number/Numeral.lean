import AccountPortal.Text.Blank
import AccountPortal.Text.Segments

/-!
# Numerals

Integers and decimal numbers as people write them: blanks around, a sign, digits that single
underscores may group. An integer may start with zeros and end in a point and zeros; a number may
have a point, an exponent, or be a word for infinity or for no number. Main definitions:
`Numeral.integer?`, `Numeral.isOverlong`, `Numeral.decimal?`.
-/

namespace AccountPortal.Numeral

def isDigit (c : Char) : Bool := '0' ≤ c && c ≤ '9'

def digitsValue (cs : List Char) : Nat := cs.foldl (fun n c => 10 * n + (c.toNat - 48)) 0

/-- The text without its underscores, of which none may stand at an end or beside another. -/
def ungrouped? (cs : List Char) : Option (List Char) :=
  let groups := segments '_' cs
  if groups.all (!·.isEmpty) then some groups.flatten else none

/-! ## Integers -/

/-- The most digits of an integer that is read. -/
def maxDigits : Nat := 4300

/-- Digits among which a zero leads only when it is alone. -/
def plainDigits? : List Char → Option Nat
  | [] => none
  | ['0'] => some 0
  | c :: rest =>
    if c != '0' && (c :: rest).all isDigit && rest.length < maxDigits then
      some (digitsValue (c :: rest))
    else none

/-- Plain digits, or a minus sign and plain digits. -/
def plainInteger? : List Char → Option Int
  | '-' :: ds => (plainDigits? ds).map fun n => -(n : Int)
  | ds => (plainDigits? ds).map fun n => (n : Int)

/-- What is left of a numeral after a zero. Zeros and underscores are passed over up to another digit
or a minus sign; before anything else, or at the end, the last of them stays. -/
def afterZero (last : Char) : List Char → List Char
  | [] => [last]
  | c :: rest =>
    if c = '0' || c = '_' then afterZero c rest
    else if isDigit c || c = '-' then c :: rest
    else last :: c :: rest

def dropZeros : List Char → List Char
  | '0' :: rest => afterZero '0' rest
  | cs => cs

/-- What stands before the point, if only zeros stand after it. -/
def wholePart? (cs : List Char) : Option (List Char) :=
  match cutAt '.' cs with
  | none => some cs
  | some (whole, zeros) => if !zeros.isEmpty && zeros.all (· = '0') then some whole else none

/-- A numeral without the zeros that lead it, the point and zeros that end it, and underscores. -/
def bare? (cs : List Char) : Option (List Char) := (wholePart? (dropZeros cs)).bind ungrouped?

/-- The digits follow a minus at once. Where no minus is in front, leading zeros may come before one;
a plus in front changes nothing, but no minus may follow it. -/
def integer? (cs : List Char) : Option Int :=
  match trimChars isWhiteSpace cs with
  | '-' :: rest => ((bare? rest).bind plainDigits?).map fun n => -(n : Int)
  | '+' :: '-' :: _ => none
  | '+' :: rest => (bare? rest).bind plainInteger?
  | rest => (bare? rest).bind plainInteger?

/-- The number of digits at the front, none when a zero leads them. -/
def leadingDigits : List Char → Nat
  | [] => 0
  | c :: rest => if c = '0' then 0 else ((c :: rest).takeWhile isDigit).length

/-- Whether the text, as it stands, starts with a plain integer of more digits than are read. -/
def isOverlong : List Char → Bool
  | '-' :: ds => leadingDigits ds > maxDigits
  | ds => leadingDigits ds > maxDigits

/-! ## Decimal numbers -/

inductive Decimal where
  | nan
  | infinite (negative : Bool)
  /-- The digits times a power of ten. -/
  | finite (negative : Bool) (digits : Nat) (exponent : Int)

/-- The rest after an optional sign, and whether it was a minus. -/
def signed : List Char → Bool × List Char
  | '-' :: rest => (true, rest)
  | '+' :: rest => (false, rest)
  | cs => (false, cs)

/-- An exponent, with the sign it may have; no text is the exponent zero. -/
def exponent? : List Char → Option Int
  | [] => some 0
  | e :: rest =>
    if e = 'e' || e = 'E' then
      let (negative, ds) := signed rest
      if !ds.isEmpty && ds.all isDigit then
        some (if negative then -(digitsValue ds : Int) else digitsValue ds)
      else none
    else none

/-- Digits with at most one point, at least one digit, and an exponent. -/
def unsignedDecimal? (cs : List Char) : Option (Nat × Int) :=
  let whole := cs.takeWhile isDigit
  let rest := cs.dropWhile isDigit
  let fraction := match rest with
    | '.' :: r => r.takeWhile isDigit
    | _ => []
  let tail := match rest with
    | '.' :: r => r.dropWhile isDigit
    | r => r
  if whole.isEmpty && fraction.isEmpty then none
  else (exponent? tail).map fun e => (digitsValue (whole ++ fraction), e - fraction.length)

def lowerAscii (cs : List Char) : String := String.ofList (cs.map Char.toLower)

/-- A number without blanks and underscores. -/
def plainDecimal? (cs : List Char) : Option Decimal :=
  let (negative, rest) := signed cs
  let word := lowerAscii rest
  if word == "inf" || word == "infinity" then some (.infinite negative)
  else if word == "nan" then some .nan
  else (unsignedDecimal? rest).map fun (digits, exponent) => .finite negative digits exponent

/-- Blanks around a number or underscores in it, but not both. -/
def decimal? (cs : List Char) : Option Decimal :=
  (plainDecimal? (trimChars isWhiteSpace cs)).or ((ungrouped? cs).bind plainDecimal?)

end AccountPortal.Numeral
