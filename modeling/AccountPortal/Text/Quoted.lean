import AccountPortal.Value
import AccountPortal.Digest.Bytes
import AccountPortal.Text.UnprintableTable

/-!
# Quoted values

The written form of a value in a message: text stands in single quotes, or in double quotes when it
holds a single quote and no double one; the quote in use, the backslash and every character that is
not printed are escaped. Main definitions: `quoted`, `Value.written`.
-/

namespace AccountPortal

def isPrintable (c : Char) : Bool := !inRanges unprintableRanges c

def quoteFor (cs : List Char) : Char :=
  if cs.contains '\'' && !cs.contains '"' then '"' else '\''

/-- The last `width` hexadecimal digits of a number. -/
def hexDigits : (width : Nat) → Nat → List Char
  | 0, _ => []
  | w + 1, n => Bytes.hexDigit (n / 16 ^ w % 16) :: hexDigits w n

/-- Two digits below 256, four below 65536, eight beyond. -/
def codeEscape (n : Nat) : List Char :=
  if n < 0x100 then '\\' :: 'x' :: hexDigits 2 n
  else if n < 0x10000 then '\\' :: 'u' :: hexDigits 4 n
  else '\\' :: 'U' :: hexDigits 8 n

def escapeChar (quote c : Char) : List Char :=
  if c = quote || c = '\\' then ['\\', c]
  else if c = '\t' then ['\\', 't']
  else if c = '\n' then ['\\', 'n']
  else if c = '\r' then ['\\', 'r']
  else if isPrintable c then [c]
  else codeEscape c.toNat

def quotedChars (cs : List Char) : List Char :=
  let q := quoteFor cs
  q :: cs.flatMap (escapeChar q) ++ [q]

def quoted (s : String) : String := String.ofList (quotedChars s.toList)

/-! ## Values -/

def writtenFlag (b : Bool) : String := if b then "True" else "False"

mutual

def Value.written : Value → String
  | .null => "None"
  | .flag b => writtenFlag b
  | .int n => toString n
  | .number x => x.text
  | .text s => quoted s
  | .list items => "[" ++ String.intercalate ", " (writtenItems items) ++ "]"
  | .record fields => "\x7b" ++ String.intercalate ", " (writtenFields fields) ++ "\x7d"

def writtenItems : List Value → List String
  | [] => []
  | v :: rest => v.written :: writtenItems rest

def writtenFields : List (String × Value) → List String
  | [] => []
  | (n, v) :: rest => (quoted n ++ ": " ++ v.written) :: writtenFields rest

end

end AccountPortal
