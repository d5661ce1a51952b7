import ApiGateway.Digest.Bytes

/-! # SHA-256 and its keyed form

`sha256` hashes a sequence of bytes, and `hmac` keys the hash with a secret in the usual two
passes. Words are 32 bits wide and add modulo `2 ^ 32`.
-/

set_option autoImplicit false

namespace ApiGateway.Digest

/-- The round constants: the fractional parts of the cube roots of the first 64 primes. -/
def roundConstants : List UInt32 := [
  0x428a2f98, 0x71374491, 0xb5c0fbcf, 0xe9b5dba5, 0x3956c25b, 0x59f111f1, 0x923f82a4, 0xab1c5ed5,
  0xd807aa98, 0x12835b01, 0x243185be, 0x550c7dc3, 0x72be5d74, 0x80deb1fe, 0x9bdc06a7, 0xc19bf174,
  0xe49b69c1, 0xefbe4786, 0x0fc19dc6, 0x240ca1cc, 0x2de92c6f, 0x4a7484aa, 0x5cb0a9dc, 0x76f988da,
  0x983e5152, 0xa831c66d, 0xb00327c8, 0xbf597fc7, 0xc6e00bf3, 0xd5a79147, 0x06ca6351, 0x14292967,
  0x27b70a85, 0x2e1b2138, 0x4d2c6dfc, 0x53380d13, 0x650a7354, 0x766a0abb, 0x81c2c92e, 0x92722c85,
  0xa2bfe8a1, 0xa81a664b, 0xc24b8b70, 0xc76c51a3, 0xd192e819, 0xd6990624, 0xf40e3585, 0x106aa070,
  0x19a4c116, 0x1e376c08, 0x2748774c, 0x34b0bcb5, 0x391c0cb3, 0x4ed8aa4a, 0x5b9cca4f, 0x682e6ff3,
  0x748f82ee, 0x78a5636f, 0x84c87814, 0x8cc70208, 0x90befffa, 0xa4506ceb, 0xbef9a3f7, 0xc67178f2]

/-- The eight words of the hash in progress. -/
structure HashState where
  a : UInt32
  b : UInt32
  c : UInt32
  d : UInt32
  e : UInt32
  f : UInt32
  g : UInt32
  h : UInt32

/-- The fractional parts of the square roots of the first eight primes. -/
def HashState.start : HashState :=
  ⟨0x6a09e667, 0xbb67ae85, 0x3c6ef372, 0xa54ff53a, 0x510e527f, 0x9b05688c, 0x1f83d9ab, 0x5be0cd19⟩

/-- A rotation to the right. -/
def rotate (x n : UInt32) : UInt32 := (x >>> n) ||| (x <<< (32 - n))

/-- One round, with its constant and its word of the message schedule. -/
def HashState.round (s : HashState) (k w : UInt32) : HashState :=
  let s1 := rotate s.e 6 ^^^ rotate s.e 11 ^^^ rotate s.e 25
  let choice := (s.e &&& s.f) ^^^ ((s.e ^^^ 0xffffffff) &&& s.g)
  let t1 := s.h + s1 + choice + k + w
  let s0 := rotate s.a 2 ^^^ rotate s.a 13 ^^^ rotate s.a 22
  let majority := (s.a &&& s.b) ^^^ (s.a &&& s.c) ^^^ (s.b &&& s.c)
  ⟨t1 + (s0 + majority), s.a, s.b, s.c, s.d + t1, s.e, s.f, s.g⟩

/-- Two states added word by word. -/
def HashState.add (s t : HashState) : HashState :=
  ⟨s.a + t.a, s.b + t.b, s.c + t.c, s.d + t.d, s.e + t.e, s.f + t.f, s.g + t.g, s.h + t.h⟩

/-- The words of the state. -/
def HashState.words (s : HashState) : List UInt32 := [s.a, s.b, s.c, s.d, s.e, s.f, s.g, s.h]

/-- A word read from four bytes, most significant first. -/
def wordsOf : Bytes → List UInt32
  | a :: b :: c :: d :: rest =>
    ((a.toUInt32 <<< 24) ||| (b.toUInt32 <<< 16) ||| (c.toUInt32 <<< 8) ||| d.toUInt32) ::
      wordsOf rest
  | _ => []

/-- The four bytes of a word, most significant first. -/
def bytesOf (w : UInt32) : Bytes :=
  [(w >>> 24).toUInt8, (w >>> 16).toUInt8, (w >>> 8).toUInt8, w.toUInt8]

/-- Extends a message schedule by `n` words. -/
def extend (n : Nat) (schedule : Array UInt32) : Array UInt32 :=
  match n with
  | 0 => schedule
  | n + 1 =>
    let word (back : Nat) := schedule.getD (schedule.size - back) 0
    let s0 := rotate (word 15) 7 ^^^ rotate (word 15) 18 ^^^ (word 15 >>> 3)
    let s1 := rotate (word 2) 17 ^^^ rotate (word 2) 19 ^^^ (word 2 >>> 10)
    extend n (schedule.push (word 16 + s0 + word 7 + s1))

/-- Takes in one block of sixteen words. -/
def HashState.block (s : HashState) (words : List UInt32) : HashState :=
  let schedule := (extend 48 words.toArray).toList
  s.add ((roundConstants.zip schedule).foldl (fun t (k, w) => t.round k w) s)

/-- Takes in `n` blocks. -/
def HashState.blocks (s : HashState) (n : Nat) (words : List UInt32) : HashState :=
  match n with
  | 0 => s
  | n + 1 => (s.block (words.take 16)).blocks n (words.drop 16)

/-- The message filled up to whole blocks: a one bit, zeros, and the length in bits. -/
def padded (message : Bytes) : Bytes :=
  let length := message.length
  let zeros := (119 - length % 64) % 64
  let bits := UInt64.ofNat (8 * length)
  message ++ (0x80 : UInt8) :: List.replicate zeros 0 ++
    bytesOf (bits >>> 32).toUInt32 ++ bytesOf bits.toUInt32

/-- The SHA-256 hash of a message. -/
def sha256 (message : Bytes) : Bytes :=
  let words := wordsOf (padded message)
  (HashState.start.blocks (words.length / 16) words).words.flatMap bytesOf

/-- The keyed hash of a message. A key longer than a block is hashed first. -/
def hmac (key message : Bytes) : Bytes :=
  let short := if key.length > 64 then sha256 key else key
  let full := short ++ List.replicate (64 - short.length) 0
  sha256 (full.map (· ^^^ 0x5c) ++ sha256 (full.map (· ^^^ 0x36) ++ message))

end ApiGateway.Digest
