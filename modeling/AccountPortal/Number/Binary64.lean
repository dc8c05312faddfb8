import AccountPortal.Number.Numeral

/-!
# Binary floating point

Numbers of the form `mantissa * 2 ^ exponent` with 53 bits of mantissa. A decimal number is rounded
to the nearest of them, a tie to the even mantissa; the text of a number is the shortest decimal
that rounds back to it. All arithmetic is exact. Main definitions: `Binary64.ofDecimal`,
`Binary64.toInt?`, `Binary64.text`.
-/

namespace AccountPortal

inductive Binary64 where
  | nan
  | infinite (negative : Bool)
  | finite (negative : Bool) (mantissa : Nat) (exponent : Int)
  deriving DecidableEq

namespace Binary64

def zero : Binary64 := .finite false 0 (-1074)

def isPositive : Binary64 → Bool
  | .finite false m _ => m != 0
  | .infinite false => true
  | _ => false

def isFinite : Binary64 → Bool
  | .finite .. => true
  | _ => false

/-- Zero of either sign. -/
def isZero : Binary64 → Bool
  | .finite _ m _ => m == 0
  | _ => false

/-! ## Rounding -/

/-- The fraction `num / den` over `2 ^ q`, as a fraction again. -/
def scaled (num den : Nat) (q : Int) : Nat × Nat :=
  if q ≥ 0 then (num, den * Nat.pow 2 q.toNat) else (num * Nat.pow 2 (-q).toNat, den)

/-- The integer nearest to a fraction, the even one of two. -/
def roundEven (num den : Nat) : Nat :=
  let n := num / den
  let twice := 2 * (num % den)
  if twice > den || (twice == den && n % 2 == 1) then n + 1 else n

/-- The exponent that leaves 53 bits before the point, or the least one there is. -/
def exponentOf (num den : Nat) : Int :=
  let q : Int := (num.log2 : Int) - den.log2 - 52
  let (n, d) := scaled num den q
  max (if n / d < Nat.pow 2 52 then q - 1 else q) (-1074)

/-- The number nearest to the positive fraction `num / den`. -/
def ofRatio (negative : Bool) (num den : Nat) : Binary64 :=
  if num = 0 then .finite negative 0 (-1074)
  else
    let q := exponentOf num den
    let (n, d) := scaled num den q
    let m := roundEven n d
    let (m, q) := if m = Nat.pow 2 53 then (Nat.pow 2 52, q + 1) else (m, q)
    if q > 971 then .infinite negative else .finite negative m q

/-- Beyond these exponents every number overflows or vanishes. -/
def ofDigits (negative : Bool) (digits : Nat) (exponent : Int) : Binary64 :=
  if digits = 0 then .finite negative 0 (-1074)
  else if exponent > 400 then .infinite negative
  else if exponent + digits.log2 < -400 then .finite negative 0 (-1074)
  else if exponent ≥ 0 then ofRatio negative (digits * Nat.pow 10 exponent.toNat) 1
  else ofRatio negative digits (Nat.pow 10 (-exponent).toNat)

def ofDecimal : Numeral.Decimal → Binary64
  | .nan => .nan
  | .infinite negative => .infinite negative
  | .finite negative digits exponent => ofDigits negative digits exponent

/-- An integer beyond the range has no number. -/
def ofInt? (n : Int) : Option Binary64 :=
  match ofRatio (n < 0) n.natAbs 1 with
  | .infinite _ => none
  | x => some x

/-- The integer that a number is, when it is one. -/
def toInt? : Binary64 → Option Int
  | .finite negative m q =>
    let (n, d) := scaled m 1 (-q)
    if n % d = 0 then some (if negative then -(n / d : Nat) else (n / d : Nat)) else none
  | _ => none

/-! ## The shortest decimal -/

/-- The integer part of the decimal logarithm of a positive fraction. -/
def log10 (num den : Nat) : Int :=
  let atLeast (k : Int) : Bool :=
    if k ≥ 0 then den * Nat.pow 10 k.toNat ≤ num else den ≤ num * Nat.pow 10 (-k).toNat
  let guess := (((num.log2 : Int) - den.log2) * 30103).fdiv 100000
  if atLeast (guess + 1) then guess + 1 else if atLeast guess then guess else guess - 1

/-- Four times the number in units of `2 ^ (exponent - 2)`, and the bounds of what rounds to it. -/
def bounds (mantissa : Nat) (exponent : Int) : Nat × Nat × Nat :=
  let low := if mantissa = Nat.pow 2 52 && exponent > -1074 then 4 * mantissa - 1 else 4 * mantissa - 2
  (low, 4 * mantissa, 4 * mantissa + 2)

/-- Whether `digit * unit` rounds to the number; the ends belong to an even mantissa. -/
def roundsBack (mantissa : Nat) (low high value : Nat) : Bool :=
  if mantissa % 2 = 0 then low ≤ value && value ≤ high else low < value && value < high

/-- On the grid of multiples of `10 ^ k`: the multiple nearest to the number among those that round
back to it. The three bounds are over the denominator `den`. -/
def onGrid? (mantissa low value high den : Nat) (k : Int) : Option Nat :=
  -- everything times `den`, and times the grid's denominator when `k` is negative
  let unit := if k ≥ 0 then den * Nat.pow 10 k.toNat else den
  let up (n : Nat) : Nat := if k ≥ 0 then n else n * Nat.pow 10 (-k).toNat
  let d := up value / unit
  let fits (d : Nat) : Bool := roundsBack mantissa (up low) (up high) (d * unit)
  let below := up value - d * unit
  let above := (d + 1) * unit - up value
  if fits d && fits (d + 1) then
    some (if below < above || (below == above && d % 2 == 0) then d else d + 1)
  else if fits d then some d
  else if fits (d + 1) then some (d + 1)
  else none

/-- Tries grids of `17 - n + 1` digits and finer ones; seventeen digits always round back. -/
def shortestFrom (mantissa low value high den : Nat) (top : Int) : Nat → Nat × Int
  | 0 => (0, 0)
  | n + 1 =>
    let k := top - (16 - (n : Int))
    match onGrid? mantissa low value high den k with
    | some d => (d, k)
    | none => shortestFrom mantissa low value high den top n

/-- The digits of the shortest decimal and the power of ten they are multiplied by. -/
def shortest (mantissa : Nat) (exponent : Int) : Nat × Int :=
  let (low, value, high) := bounds mantissa exponent
  let q := exponent - 2
  let up (n : Nat) : Nat := if q ≥ 0 then n * Nat.pow 2 q.toNat else n
  let den := if q ≥ 0 then 1 else Nat.pow 2 (-q).toNat
  shortestFrom mantissa (up low) (up value) (up high) den (log10 (up value) den) 17

/-! ## Text -/

/-- The digits without zeros at the end. -/
def significant (d : Nat) : List Char :=
  ((toString d).toList.reverse.dropWhile (· = '0')).reverse

/-- At least two digits, after the sign. -/
def exponentText (e : Int) : String :=
  let ds := toString e.natAbs
  (if e < 0 then "-" else "+") ++ (if ds.length < 2 then "0" ++ ds else ds)

/-- Positional while the point stands at most sixteen places after, or three before, the digits. -/
def magnitudeText (mantissa : Nat) (exponent : Int) : String :=
  if mantissa = 0 then "0.0"
  else
    let (d, k) := shortest mantissa exponent
    let ds := significant d
    let point : Int := (toString d).length + k
    let len : Int := ds.length
    if -4 < point && point ≤ 16 then
      if point ≤ 0 then
        "0." ++ String.ofList (List.replicate (-point).toNat '0' ++ ds)
      else if len ≤ point then
        String.ofList (ds ++ List.replicate (point - len).toNat '0') ++ ".0"
      else
        String.ofList (ds.take point.toNat) ++ "." ++ String.ofList (ds.drop point.toNat)
    else
      let fraction := ds.drop 1
      String.ofList (ds.take 1) ++ (if fraction.isEmpty then "" else "." ++ String.ofList fraction)
        ++ "e" ++ exponentText (point - 1)

def text : Binary64 → String
  | .nan => "nan"
  | .infinite negative => if negative then "-inf" else "inf"
  | .finite negative m q => (if negative then "-" else "") ++ magnitudeText m q

end Binary64

end AccountPortal
