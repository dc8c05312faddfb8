import AccountPortal.Value
import AccountPortal.Text.Blank
import AccountPortal.Digest.Bytes

/-!
# Base64url

Three bytes are four letters of the alphabet that ends in `-` and `_`, without padding. A reader may
meet the alphabet that ends in `+` and `/`, padding, and blanks around the text; the canonical form
has none of these. Main definitions: `Base64Url.encode`, `Base64Url.canonical?`, `Base64Url.decode`.
-/

namespace AccountPortal.Base64Url

/-! ## Letters -/

/-- The letter of a number below 64. -/
def letter (n : Nat) : Char :=
  if n < 26 then Char.ofNat (65 + n)
  else if n < 52 then Char.ofNat (71 + n)
  else if n < 62 then Char.ofNat (n - 4)
  else if n = 62 then '-'
  else '_'

def sextet? (c : Char) : Option Nat :=
  if 'A' ≤ c ∧ c ≤ 'Z' then some (c.toNat - 65)
  else if 'a' ≤ c ∧ c ≤ 'z' then some (c.toNat - 71)
  else if '0' ≤ c ∧ c ≤ '9' then some (c.toNat + 4)
  else if c = '-' then some 62
  else if c = '_' then some 63
  else none

/-! ## Encoding -/

def encodeChars : Bytes → List Char
  | [] => []
  | [a] => [letter (a.toNat / 4), letter (a.toNat % 4 * 16)]
  | [a, b] =>
    [letter (a.toNat / 4), letter (a.toNat % 4 * 16 + b.toNat / 16), letter (b.toNat % 16 * 4)]
  | a :: b :: c :: rest =>
    letter (a.toNat / 4) :: letter (a.toNat % 4 * 16 + b.toNat / 16)
      :: letter (b.toNat % 16 * 4 + c.toNat / 64) :: letter (c.toNat % 64) :: encodeChars rest

def encode (bs : Bytes) : String := String.ofList (encodeChars bs)

/-! ## The canonical form -/

def canonicalChar (c : Char) : Char :=
  if c = '+' then '-' else if c = '/' then '_' else c

def dropPadding (cs : List Char) : List Char := (cs.reverse.dropWhile (· = '=')).reverse

/-- Trimmed, in the URL alphabet, without padding at the end; nothing for blank text. -/
def canonicalChars? (cs : List Char) : Option (List Char) :=
  let trimmed := trimChars isBlank cs
  if trimmed.isEmpty then none else some (dropPadding (trimmed.map canonicalChar))

def canonical? : Value → Option String
  | .text s => (canonicalChars? s.toList).map String.ofList
  | _ => none

/-- A canonical form that is not empty. -/
def identifier? (v : Value) : Option String := (canonical? v).filter (· != "")

/-! ## Decoding -/

inductive DecodeError where
  | blank
  | notAscii
  | leadingPadding
  | foreign
  | dataAfterPadding
  | excess
  /-- One letter more than whole groups of four, with the number of letters. -/
  | lonely (letters : Nat)
  | unfinished
  deriving DecidableEq

def DecodeError.message : DecodeError → String
  | .blank => "empty base64url value"
  | .notAscii => "string argument should contain only ASCII characters"
  | .leadingPadding => "invalid base64url value: Leading padding not allowed"
  | .foreign => "invalid base64url value: Only base64 data is allowed"
  | .dataAfterPadding => "invalid base64url value: Discontinuous padding not allowed"
  | .excess => "invalid base64url value: Excess data after padding"
  | .lonely n =>
    "invalid base64url value: Invalid base64-encoded string: number of data characters ("
      ++ toString n ++ ") cannot be 1 more than a multiple of 4"
  | .unfinished => "invalid base64url value: Incorrect padding"

/-- Where a scan stands: the letters read, the padding since the last letter, whether there was any
padding, and the bits of the last letters that make no byte yet. -/
structure Scan where
  letters : Nat
  pads : Nat
  padded : Bool
  held : Nat

def Scan.start : Scan := ⟨0, 0, false, 0⟩

/-- The place inside a group of four. -/
def Scan.place (s : Scan) : Nat := s.letters % 4

/-- Takes a letter of value `v`: the byte it completes, if any, and the bits left over. -/
def Scan.take (s : Scan) (v : Nat) : Bytes × Scan :=
  let next (held : Nat) : Scan := ⟨s.letters + 1, 0, s.padded, held⟩
  match s.place with
  | 0 => ([], next v)
  | 1 => ([(s.held * 4 + v / 16).toUInt8], next (v % 16))
  | 2 => ([(s.held * 16 + v / 4).toUInt8], next (v % 4))
  | _ => ([(s.held * 64 + v).toUInt8], next 0)

/-- Padding that fills a group of four ends the text. -/
def scan (s : Scan) : List Char → Except DecodeError Bytes
  | [] =>
    match s.place with
    | 0 => .ok []
    | 1 => .error (.lonely s.letters)
    | _ => .error .unfinished
  | c :: rest =>
    if c = '=' then
      if s.place ≥ 2 then
        if s.place + (s.pads + 1) ≥ 4 then
          if rest.isEmpty then .ok [] else .error .excess
        else scan { s with pads := s.pads + 1, padded := true } rest
      else scan { s with padded := true } rest
    else match sextet? c with
      | none => .error .foreign
      | some v =>
        if s.padded then .error .dataAfterPadding
        else
          let (done, next) := s.take v
          (scan next rest).map (done ++ ·)

/-- As many padding characters as fill the last group of four. -/
def fillUp (cs : List Char) : List Char := cs ++ List.replicate ((4 - cs.length % 4) % 4) '='

def decodeChars (canonical : List Char) : Except DecodeError Bytes :=
  let cs := fillUp canonical
  if cs.any (·.toNat ≥ 0x80) then .error .notAscii
  else if cs.head? = some '=' then .error .leadingPadding
  else scan .start cs

/-- Reads any accepted spelling; the unused bits of the last letter are ignored. -/
def decode (v : Value) : Except DecodeError Bytes :=
  match canonical? v with
  | none => .error .blank
  | some s => decodeChars s.toList

end AccountPortal.Base64Url
