import SplitTest.Invalid

/-!
Two digests, and what they come to as numbers. Both cut a message into blocks of sixteen 32-bit
words, after padding with one set bit, zeros, and the length in bits; MD5 takes sixty-four steps a
block, and SHA-256 sixty-four rounds.
-/

namespace SplitTest.Digest

def bigEndian64 (n : Nat) : List UInt8 :=
  (List.range 8).map fun i => UInt8.ofNat (n / Nat.pow 256 (7 - i))

def littleEndian64 (n : Nat) : List UInt8 := (bigEndian64 n).reverse

def pad (count : Nat → List UInt8) (message : List UInt8) : List UInt8 :=
  message ++ 0x80 :: List.replicate ((119 - message.length % 64) % 64) 0 ++
    count (8 * message.length)

def blocks (bytes : List UInt8) : List (List UInt8) :=
  (List.range (bytes.length / 64)).map fun i => (bytes.drop (64 * i)).take 64

def bigEndianWords : List UInt8 → List UInt32
  | a :: b :: c :: d :: rest =>
    (a.toUInt32 <<< 24 ||| b.toUInt32 <<< 16 ||| c.toUInt32 <<< 8 ||| d.toUInt32) ::
      bigEndianWords rest
  | _ => []

def littleEndianWords : List UInt8 → List UInt32
  | a :: b :: c :: d :: rest =>
    (d.toUInt32 <<< 24 ||| c.toUInt32 <<< 16 ||| b.toUInt32 <<< 8 ||| a.toUInt32) ::
      littleEndianWords rest
  | _ => []

def wordBytes (w : UInt32) : List UInt8 :=
  [(w >>> 24).toUInt8, (w >>> 16).toUInt8, (w >>> 8).toUInt8, w.toUInt8]

def rotateLeft (w n : UInt32) : UInt32 := w <<< n ||| w >>> (32 - n)

def rotateRight (w n : UInt32) : UInt32 := w >>> n ||| w <<< (32 - n)

namespace Md5

structure State where
  a : UInt32
  b : UInt32
  c : UInt32
  d : UInt32
deriving DecidableEq

def State.start : State := ⟨0x67452301, 0xefcdab89, 0x98badcfe, 0x10325476⟩

def constants : List UInt32 :=
  [0xd76aa478, 0xe8c7b756, 0x242070db, 0xc1bdceee, 0xf57c0faf, 0x4787c62a,
    0xa8304613, 0xfd469501, 0x698098d8, 0x8b44f7af, 0xffff5bb1, 0x895cd7be,
    0x6b901122, 0xfd987193, 0xa679438e, 0x49b40821, 0xf61e2562, 0xc040b340,
    0x265e5a51, 0xe9b6c7aa, 0xd62f105d, 0x02441453, 0xd8a1e681, 0xe7d3fbc8,
    0x21e1cde6, 0xc33707d6, 0xf4d50d87, 0x455a14ed, 0xa9e3e905, 0xfcefa3f8,
    0x676f02d9, 0x8d2a4c8a, 0xfffa3942, 0x8771f681, 0x6d9d6122, 0xfde5380c,
    0xa4beea44, 0x4bdecfa9, 0xf6bb4b60, 0xbebfbc70, 0x289b7ec6, 0xeaa127fa,
    0xd4ef3085, 0x04881d05, 0xd9d4d039, 0xe6db99e5, 0x1fa27cf8, 0xc4ac5665,
    0xf4292244, 0x432aff97, 0xab9423a7, 0xfc93a039, 0x655b59c3, 0x8f0ccc92,
    0xffeff47d, 0x85845dd1, 0x6fa87e4f, 0xfe2ce6e0, 0xa3014314, 0x4e0811a1,
    0xf7537e82, 0xbd3af235, 0x2ad7d2bb, 0xeb86d391]

def rotations : List (List UInt32) :=
  [[7, 12, 17, 22], [5, 9, 14, 20], [4, 11, 16, 23], [6, 10, 15, 21]]

def mix (round : Nat) (b c d : UInt32) : UInt32 :=
  match round with
  | 0 => (b &&& c) ||| (~~~b &&& d)
  | 1 => (d &&& b) ||| (~~~d &&& c)
  | 2 => b ^^^ c ^^^ d
  | _ => c ^^^ (b ||| ~~~d)

def wordIndex (i : Nat) : Nat :=
  match i / 16 with
  | 0 => i % 16
  | 1 => (5 * i + 1) % 16
  | 2 => (3 * i + 5) % 16
  | _ => 7 * i % 16

def step (words : List UInt32) (s : State) (constant : UInt32 × Nat) : State :=
  let i := constant.2
  let sum := s.a + mix (i / 16) s.b s.c s.d + constant.1 + words.getD (wordIndex i) 0
  let amount := (rotations.getD (i / 16) []).getD (i % 4) 0
  ⟨s.d, s.b + rotateLeft sum amount, s.b, s.c⟩

def compress (s : State) (block : List UInt8) : State :=
  let t := constants.zipIdx.foldl (step (littleEndianWords block)) s
  ⟨s.a + t.a, s.b + t.b, s.c + t.c, s.d + t.d⟩

end Md5

def md5 (message : List UInt8) : List UInt8 :=
  let s := (blocks (pad littleEndian64 message)).foldl Md5.compress .start
  [s.a, s.b, s.c, s.d].flatMap fun w => (wordBytes w).reverse

namespace Sha256

structure State where
  a : UInt32
  b : UInt32
  c : UInt32
  d : UInt32
  e : UInt32
  f : UInt32
  g : UInt32
  h : UInt32
deriving DecidableEq

def State.start : State :=
  ⟨0x6a09e667, 0xbb67ae85, 0x3c6ef372, 0xa54ff53a,
    0x510e527f, 0x9b05688c, 0x1f83d9ab, 0x5be0cd19⟩

def constants : List UInt32 :=
  [0x428a2f98, 0x71374491, 0xb5c0fbcf, 0xe9b5dba5, 0x3956c25b, 0x59f111f1,
    0x923f82a4, 0xab1c5ed5, 0xd807aa98, 0x12835b01, 0x243185be, 0x550c7dc3,
    0x72be5d74, 0x80deb1fe, 0x9bdc06a7, 0xc19bf174, 0xe49b69c1, 0xefbe4786,
    0x0fc19dc6, 0x240ca1cc, 0x2de92c6f, 0x4a7484aa, 0x5cb0a9dc, 0x76f988da,
    0x983e5152, 0xa831c66d, 0xb00327c8, 0xbf597fc7, 0xc6e00bf3, 0xd5a79147,
    0x06ca6351, 0x14292967, 0x27b70a85, 0x2e1b2138, 0x4d2c6dfc, 0x53380d13,
    0x650a7354, 0x766a0abb, 0x81c2c92e, 0x92722c85, 0xa2bfe8a1, 0xa81a664b,
    0xc24b8b70, 0xc76c51a3, 0xd192e819, 0xd6990624, 0xf40e3585, 0x106aa070,
    0x19a4c116, 0x1e376c08, 0x2748774c, 0x34b0bcb5, 0x391c0cb3, 0x4ed8aa4a,
    0x5b9cca4f, 0x682e6ff3, 0x748f82ee, 0x78a5636f, 0x84c87814, 0x8cc70208,
    0x90befffa, 0xa4506ceb, 0xbef9a3f7, 0xc67178f2]

def extend (window : List UInt32) : UInt32 :=
  let w := window.getD 1 0
  let v := window.getD 14 0
  window.getD 0 0 + (rotateRight w 7 ^^^ rotateRight w 18 ^^^ w >>> 3) +
    window.getD 9 0 + (rotateRight v 17 ^^^ rotateRight v 19 ^^^ v >>> 10)

def round (s : State × List UInt32) (constant : UInt32) : State × List UInt32 :=
  let ⟨⟨a, b, c, d, e, f, g, h⟩, window⟩ := s
  let first := h + (rotateRight e 6 ^^^ rotateRight e 11 ^^^ rotateRight e 25) +
    ((e &&& f) ^^^ (~~~e &&& g)) + constant + window.getD 0 0
  let second := (rotateRight a 2 ^^^ rotateRight a 13 ^^^ rotateRight a 22) +
    ((a &&& b) ^^^ (a &&& c) ^^^ (b &&& c))
  (⟨first + second, a, b, c, d + first, e, f, g⟩, window.drop 1 ++ [extend window])

def compress (s : State) (block : List UInt8) : State :=
  let t := (constants.foldl round (s, bigEndianWords block)).1
  ⟨s.a + t.a, s.b + t.b, s.c + t.c, s.d + t.d, s.e + t.e, s.f + t.f, s.g + t.g, s.h + t.h⟩

end Sha256

def sha256 (message : List UInt8) : List UInt8 :=
  let s := (blocks (pad bigEndian64 message)).foldl Sha256.compress .start
  [s.a, s.b, s.c, s.d, s.e, s.f, s.g, s.h].flatMap wordBytes

/-- Up to this modulus `m` the largest sum of a step, `256 * (m - 1) + 255`, fits 64 bits. -/
def maxModulus : UInt64 := 0x00ffffffffffffff

def residueStep (modulus remainder : UInt64) (byte : UInt8) : UInt64 :=
  (remainder * 256 + byte.toUInt64) % modulus

def remainder (digest : List UInt8) (modulus : UInt64) : UInt64 :=
  digest.foldl (residueStep modulus) 0

def residue (digest : List UInt8) (modulus : UInt64) : Except Invalid UInt64 :=
  if modulus = 0 then .error .modulusZero
  else if maxModulus < modulus then .error .modulusTooLarge
  else .ok (remainder digest modulus)

end SplitTest.Digest
