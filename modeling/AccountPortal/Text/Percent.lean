import AccountPortal.Text.Utf8

/-!
# Percent encoding

Letters, digits and the four marks `-`, `.`, `_`, `~` stand for themselves; every other byte of the
UTF-8 text is written as a percent sign and two upper-case digits. Decoding turns each percent sign
with two digits of either case back into its byte, lets everything else stand, and reads the bytes
as UTF-8. Main definitions: `percentEncode`, `percentDecode`.
-/

namespace AccountPortal

def isUnreserved (c : Char) : Bool :=
  'A' ≤ c && c ≤ 'Z' || 'a' ≤ c && c ≤ 'z' || '0' ≤ c && c ≤ '9'
    || c == '-' || c == '.' || c == '_' || c == '~'

def upperHexDigit (n : Nat) : Char :=
  if n < 10 then Char.ofNat (48 + n) else Char.ofNat (55 + n)

def percentByte (b : UInt8) : List Char :=
  let c := Char.ofNat b.toNat
  if isUnreserved c then [c] else ['%', upperHexDigit (b.toNat / 16), upperHexDigit (b.toNat % 16)]

def percentEncodeChars (cs : List Char) : List Char := (utf8Chars cs).flatMap percentByte

def percentEncode (s : String) : String := String.ofList (percentEncodeChars s.toList)

/-- The bytes that percent-encoded text stands for. -/
def percentBytes : List Char → Bytes
  | [] => []
  | '%' :: h :: l :: rest =>
    match Bytes.hexValue? h, Bytes.hexValue? l with
    | some h, some l => (16 * h + l).toUInt8 :: percentBytes rest
    | _, _ => 0x25 :: percentBytes (h :: l :: rest)
  | c :: rest => String.utf8EncodeChar c ++ percentBytes rest

def percentDecodeChars (cs : List Char) : List Char := Utf8.decodeLossy (percentBytes cs)

def percentDecode (s : String) : String := String.ofList (percentDecodeChars s.toList)

end AccountPortal
