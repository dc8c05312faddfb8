import AccountPortal.Digest.Bytes

/-!
# SHA-256

A message is padded to whole blocks of sixteen words; each block is expanded to sixty-four words
and mixed into the eight words of the state. Main definition: `Sha256.digest`, thirty-two bytes for
any message.
-/

namespace AccountPortal.Sha256

structure State where
  a : UInt32
  b : UInt32
  c : UInt32
  d : UInt32
  e : UInt32
  f : UInt32
  g : UInt32
  h : UInt32

/-- The leading bits of the fractional parts of the cube roots of the first sixty-four primes. -/
def roundConstants : List UInt32 :=
  [0x428a2f98, 0x71374491, 0xb5c0fbcf, 0xe9b5dba5, 0x3956c25b, 0x59f111f1, 0x923f82a4, 0xab1c5ed5,
   0xd807aa98, 0x12835b01, 0x243185be, 0x550c7dc3, 0x72be5d74, 0x80deb1fe, 0x9bdc06a7, 0xc19bf174,
   0xe49b69c1, 0xefbe4786, 0x0fc19dc6, 0x240ca1cc, 0x2de92c6f, 0x4a7484aa, 0x5cb0a9dc, 0x76f988da,
   0x983e5152, 0xa831c66d, 0xb00327c8, 0xbf597fc7, 0xc6e00bf3, 0xd5a79147, 0x06ca6351, 0x14292967,
   0x27b70a85, 0x2e1b2138, 0x4d2c6dfc, 0x53380d13, 0x650a7354, 0x766a0abb, 0x81c2c92e, 0x92722c85,
   0xa2bfe8a1, 0xa81a664b, 0xc24b8b70, 0xc76c51a3, 0xd192e819, 0xd6990624, 0xf40e3585, 0x106aa070,
   0x19a4c116, 0x1e376c08, 0x2748774c, 0x34b0bcb5, 0x391c0cb3, 0x4ed8aa4a, 0x5b9cca4f, 0x682e6ff3,
   0x748f82ee, 0x78a5636f, 0x84c87814, 0x8cc70208, 0x90befffa, 0xa4506ceb, 0xbef9a3f7, 0xc67178f2]

/-- The leading bits of the fractional parts of the square roots of the first eight primes. -/
def initial : State :=
  ⟨0x6a09e667, 0xbb67ae85, 0x3c6ef372, 0xa54ff53a, 0x510e527f, 0x9b05688c, 0x1f83d9ab, 0x5be0cd19⟩

def rotateRight (x n : UInt32) : UInt32 := x >>> n ||| x <<< (32 - n)

/-! ## One block -/

/-- The block's sixteen words followed by `n` words, each made of four words before it. -/
def schedule (block : Vector UInt32 16) : (n : Nat) → Vector UInt32 (16 + n)
  | 0 => block
  | n + 1 =>
    let w := schedule block n
    let x := w[n + 1]
    let y := w[n + 14]
    let s0 := rotateRight x 7 ^^^ rotateRight x 18 ^^^ x >>> 3
    let s1 := rotateRight y 17 ^^^ rotateRight y 19 ^^^ y >>> 10
    w.push (w[n] + s0 + w[n + 9] + s1)

/-- One round: `kw` is the sum of the round's constant and its word. -/
def State.round (s : State) (kw : UInt32) : State :=
  let s1 := rotateRight s.e 6 ^^^ rotateRight s.e 11 ^^^ rotateRight s.e 25
  let choice := (s.e &&& s.f) ^^^ (~~~s.e &&& s.g)
  let t1 := s.h + s1 + choice + kw
  let s0 := rotateRight s.a 2 ^^^ rotateRight s.a 13 ^^^ rotateRight s.a 22
  let majority := (s.a &&& s.b) ^^^ (s.a &&& s.c) ^^^ (s.b &&& s.c)
  ⟨t1 + (s0 + majority), s.a, s.b, s.c, s.d + t1, s.e, s.f, s.g⟩

def State.add (s t : State) : State :=
  ⟨s.a + t.a, s.b + t.b, s.c + t.c, s.d + t.d, s.e + t.e, s.f + t.f, s.g + t.g, s.h + t.h⟩

def compress (s : State) (block : Vector UInt32 16) : State :=
  s.add ((List.zipWith (· + ·) roundConstants (schedule block 48).toList).foldl State.round s)

/-! ## The message -/

/-- The message, one bit, zeros, and the length in bits: a whole number of 64-byte blocks. -/
def pad (message : Bytes) : Bytes :=
  let bits := 8 * message.length
  let zeros : Bytes := List.replicate ((119 - message.length % 64) % 64) 0
  let length : Bytes := (List.range 8).map fun i => (bits >>> (8 * (7 - i))).toUInt8
  message ++ 0x80 :: zeros ++ length

/-- The first `n` blocks of sixteen words. -/
def blocks : Nat → List UInt32 → List (Vector UInt32 16)
  | 0, _ => []
  | n + 1, words => Vector.ofFn (fun i => words.getD i.val 0) :: blocks n (words.drop 16)

def State.bytes (s : State) : Bytes :=
  [s.a, s.b, s.c, s.d, s.e, s.f, s.g, s.h].flatMap Bytes.ofBigWord

def digest (message : Bytes) : Bytes :=
  let words := (pad message).bigWords
  ((blocks (words.length / 16) words).foldl compress initial).bytes

theorem State.length_bytes (s : State) : s.bytes.length = 32 := rfl

/-- A digest has thirty-two bytes. -/
theorem length_digest (message : Bytes) : (digest message).length = 32 :=
  State.length_bytes _

end AccountPortal.Sha256
