/-!
# Bytes and words

Words are cut out of byte lists and written back in either byte order; lower-case hexadecimal is
the written form of a digest. Main definitions: `Bytes.hex`, `Bytes.ofHex?`, `Bytes.bigWords`,
`Bytes.littleWords`.
-/

namespace AccountPortal

abbrev Bytes := List UInt8

namespace Bytes

def xor (a b : Bytes) : Bytes := List.zipWith (· ^^^ ·) a b

/-! ## Words -/

/-- Big-endian 32-bit words; a tail of fewer than four bytes is dropped. -/
def bigWords : Bytes → List UInt32
  | a :: b :: c :: d :: rest =>
    (a.toUInt32 <<< 24 ||| b.toUInt32 <<< 16 ||| c.toUInt32 <<< 8 ||| d.toUInt32) :: bigWords rest
  | _ => []

def ofBigWord (w : UInt32) : Bytes :=
  [(w >>> 24).toUInt8, (w >>> 16).toUInt8, (w >>> 8).toUInt8, w.toUInt8]

/-- Little-endian 32-bit words; a tail of fewer than four bytes is dropped. -/
def littleWords : Bytes → List UInt32
  | a :: b :: c :: d :: rest =>
    (a.toUInt32 ||| b.toUInt32 <<< 8 ||| c.toUInt32 <<< 16 ||| d.toUInt32 <<< 24)
      :: littleWords rest
  | _ => []

def ofLittleWord (w : UInt32) : Bytes :=
  [w.toUInt8, (w >>> 8).toUInt8, (w >>> 16).toUInt8, (w >>> 24).toUInt8]

/-- The number whose big-endian digits in base 256 are the bytes. -/
def bigNat (bs : Bytes) : Nat := bs.foldl (fun n b => 256 * n + b.toNat) 0

/-! ## Hexadecimal -/

def hexDigit (n : Nat) : Char :=
  if n < 10 then Char.ofNat (48 + n) else Char.ofNat (87 + n)

/-- Two lower-case digits a byte, the high half first. -/
def hexChars : Bytes → List Char
  | [] => []
  | b :: rest => hexDigit (b.toNat / 16) :: hexDigit (b.toNat % 16) :: hexChars rest

def hex (bs : Bytes) : String := String.ofList (hexChars bs)

/-- The value of a hexadecimal digit of either case. -/
def hexValue? (c : Char) : Option Nat :=
  if '0' ≤ c ∧ c ≤ '9' then some (c.toNat - 48)
  else if 'a' ≤ c ∧ c ≤ 'f' then some (c.toNat - 87)
  else if 'A' ≤ c ∧ c ≤ 'F' then some (c.toNat - 55)
  else none

/-- Reads pairs of digits of either case; anything else, or an odd digit, is refused. -/
def ofHexChars? : List Char → Option Bytes
  | [] => some []
  | h :: l :: rest =>
    match hexValue? h, hexValue? l with
    | some h, some l => (ofHexChars? rest).map ((16 * h + l).toUInt8 :: ·)
    | _, _ => none
  | [_] => none

def ofHex? (s : String) : Option Bytes := ofHexChars? s.toList

/-! ## Comparison -/

/-- Two byte strings of one length are the same when no pair of bytes differs in any bit. The fold
visits every pair whatever it finds. -/
def same (a b : Bytes) : Bool :=
  a.length == b.length && (xor a b).foldl (· ||| ·) 0 == 0

end Bytes

end AccountPortal
