import TokenRotation.Bytes.BigEndian
import TokenRotation.Bytes.Hex

/-!
# The digest of a message (SHA-256)

A message is padded to whole blocks of sixteen words of 32 bits; each block is mixed into eight
registers, and the registers after the last block are the digest. A digest has a fixed size by its
type, so its text has 64 digits whatever the message was.

* `length_bytes`, `length_toList_text` -- 32 bytes, 64 digits.
-/

namespace TokenRotation

/-- Eight words: the state between two blocks, and after the last one the digest. -/
structure Digest where
  a : UInt32
  b : UInt32
  c : UInt32
  d : UInt32
  e : UInt32
  f : UInt32
  g : UInt32
  h : UInt32
deriving DecidableEq, Repr

namespace Digest

/-! ## 1. Blocks of a message -/

/-- The number of zero bytes between the end mark and the eight bytes of the length. -/
def zeros (length : Nat) : Nat := (119 - length % 64) % 64

/-- A message with its end mark and its length in bits, filling whole blocks of 64 bytes. -/
def padded (message : List UInt8) : List UInt8 :=
  message ++ 0x80 :: List.replicate (zeros message.length) 0
    ++ Bytes.BigEndian.ofNat 8 (8 * message.length)

/-- Four bytes a word, most significant first. -/
def words : List UInt8 → List UInt32
  | a :: b :: c :: d :: rest =>
    (a.toUInt32 <<< 24 ||| b.toUInt32 <<< 16 ||| c.toUInt32 <<< 8 ||| d.toUInt32) :: words rest
  | _ => []

/-! ## 2. Mixing one block -/

/-- The words of the fractional parts of the cube roots of the first 64 primes. -/
def roundWords : List UInt32 :=
  [0x428a2f98, 0x71374491, 0xb5c0fbcf, 0xe9b5dba5, 0x3956c25b, 0x59f111f1, 0x923f82a4, 0xab1c5ed5,
   0xd807aa98, 0x12835b01, 0x243185be, 0x550c7dc3, 0x72be5d74, 0x80deb1fe, 0x9bdc06a7, 0xc19bf174,
   0xe49b69c1, 0xefbe4786, 0x0fc19dc6, 0x240ca1cc, 0x2de92c6f, 0x4a7484aa, 0x5cb0a9dc, 0x76f988da,
   0x983e5152, 0xa831c66d, 0xb00327c8, 0xbf597fc7, 0xc6e00bf3, 0xd5a79147, 0x06ca6351, 0x14292967,
   0x27b70a85, 0x2e1b2138, 0x4d2c6dfc, 0x53380d13, 0x650a7354, 0x766a0abb, 0x81c2c92e, 0x92722c85,
   0xa2bfe8a1, 0xa81a664b, 0xc24b8b70, 0xc76c51a3, 0xd192e819, 0xd6990624, 0xf40e3585, 0x106aa070,
   0x19a4c116, 0x1e376c08, 0x2748774c, 0x34b0bcb5, 0x391c0cb3, 0x4ed8aa4a, 0x5b9cca4f, 0x682e6ff3,
   0x748f82ee, 0x78a5636f, 0x84c87814, 0x8cc70208, 0x90befffa, 0xa4506ceb, 0xbef9a3f7, 0xc67178f2]

/-- The words of the fractional parts of the square roots of the first eight primes. -/
def start : Digest :=
  ⟨0x6a09e667, 0xbb67ae85, 0x3c6ef372, 0xa54ff53a, 0x510e527f, 0x9b05688c, 0x1f83d9ab, 0x5be0cd19⟩

/-- A word turned to the right by `n` places, for `0 < n < 32`. -/
def turn (x n : UInt32) : UInt32 := x >>> n ||| x <<< (32 - n)

/-- The word that follows a window of sixteen words of the schedule. -/
def scheduled (window : List UInt32) : UInt32 :=
  let early := window.getD 1 0
  let late := window.getD 14 0
  window.getD 0 0 + (turn early 7 ^^^ turn early 18 ^^^ early >>> 3)
    + window.getD 9 0 + (turn late 17 ^^^ turn late 19 ^^^ late >>> 10)

/-- One round: the registers move on by one place under a round word and a word of the schedule. -/
def turned (s : Digest) (roundWord word : UInt32) : Digest :=
  let choice := (s.e &&& s.f) ^^^ (~~~s.e &&& s.g)
  let majority := (s.a &&& s.b) ^^^ (s.a &&& s.c) ^^^ (s.b &&& s.c)
  let upper := s.h + (turn s.e 6 ^^^ turn s.e 11 ^^^ turn s.e 25) + choice + roundWord + word
  let lower := (turn s.a 2 ^^^ turn s.a 13 ^^^ turn s.a 22) + majority
  ⟨upper + lower, s.a, s.b, s.c, s.d + upper, s.e, s.f, s.g⟩

/-- The rounds for the given round words, over a window of the schedule. -/
def rounds : List UInt32 → (window : List UInt32) → Digest → Digest
  | [], _, s => s
  | k :: ks, window, s =>
    rounds ks (window.drop 1 ++ [scheduled window]) (turned s k (window.getD 0 0))

/-- The registers after one more block. -/
def mixed (s : Digest) (block : List UInt32) : Digest :=
  let r := rounds roundWords block s
  ⟨s.a + r.a, s.b + r.b, s.c + r.c, s.d + r.d, s.e + r.e, s.f + r.f, s.g + r.g, s.h + r.h⟩

/-- The registers after that many more blocks of 64 bytes. -/
def absorbed : (blocks : Nat) → Digest → List UInt8 → Digest
  | 0, s, _ => s
  | blocks + 1, s, bytes => absorbed blocks (mixed s (words (bytes.take 64))) (bytes.drop 64)

/-! ## 3. The digest and its text -/

/-- The digest of a message. -/
def ofMessage (message : List UInt8) : Digest :=
  let filled := padded message
  absorbed (filled.length / 64) start filled

/-- The eight words of a digest in order. -/
def toWords (s : Digest) : List UInt32 := [s.a, s.b, s.c, s.d, s.e, s.f, s.g, s.h]

/-- The 32 bytes of a digest, each word most significant byte first. -/
def bytes (s : Digest) : List UInt8 :=
  s.toWords.flatMap fun w => Bytes.BigEndian.ofNat 4 w.toNat

/-- The 64 lower-case hexadecimal digits of a digest. -/
def text (s : Digest) : String := Bytes.Hex.text s.bytes

@[simp] theorem length_bytes (s : Digest) : s.bytes.length = 32 := by
  simp [bytes, toWords]

theorem length_toList_text (s : Digest) : s.text.toList.length = 64 := by
  simp [text, Bytes.Hex.text]

end Digest

end TokenRotation
