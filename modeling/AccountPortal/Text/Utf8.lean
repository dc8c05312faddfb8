import AccountPortal.Digest.Bytes

/-!
# UTF-8

Text is encoded as at most four bytes a character. Decoding never fails: each longest part that
starts a character but does not finish it, and each byte that starts none, is read as the
replacement character. Main definitions: `utf8`, `Utf8.decodeLossy`.
-/

namespace AccountPortal

def utf8Chars (cs : List Char) : Bytes := cs.flatMap String.utf8EncodeChar

def utf8 (s : String) : Bytes := utf8Chars s.toList

namespace Utf8

/-- Between characters, or inside one: what has been read of it, how many bytes are owed, and the
bounds of the next one. -/
inductive State where
  | start
  | inside (code owed low high : Nat)

def replacement : Char := '\ufffd'

/-- The state after the first byte of a character, and what is complete by then. -/
def first (b : Nat) : List Char × State :=
  if b < 0x80 then ([Char.ofNat b], .start)
  else if 0xC2 ≤ b && b ≤ 0xDF then ([], .inside (b - 0xC0) 1 0x80 0xBF)
  else if b == 0xE0 then ([], .inside (b - 0xE0) 2 0xA0 0xBF)
  else if b == 0xED then ([], .inside (b - 0xE0) 2 0x80 0x9F)
  else if 0xE1 ≤ b && b ≤ 0xEF then ([], .inside (b - 0xE0) 2 0x80 0xBF)
  else if b == 0xF0 then ([], .inside (b - 0xF0) 3 0x90 0xBF)
  else if 0xF1 ≤ b && b ≤ 0xF3 then ([], .inside (b - 0xF0) 3 0x80 0xBF)
  else if b == 0xF4 then ([], .inside (b - 0xF0) 3 0x80 0x8F)
  else ([replacement], .start)

/-- A byte that cannot go on with the character cuts it short and starts anew. -/
def step : State → Nat → List Char × State
  | .start, b => first b
  | .inside code owed low high, b =>
    if low ≤ b && b ≤ high then
      let code := 64 * code + (b - 0x80)
      if owed ≤ 1 then ([Char.ofNat code], .start) else ([], .inside code (owed - 1) 0x80 0xBF)
    else
      let (done, next) := first b
      (replacement :: done, next)

def decodeFrom : State → Bytes → List Char
  | .start, [] => []
  | .inside .., [] => [replacement]
  | state, b :: rest =>
    let (done, next) := step state b.toNat
    done ++ decodeFrom next rest

def decodeLossy (bs : Bytes) : List Char := decodeFrom .start bs

end Utf8

end AccountPortal
