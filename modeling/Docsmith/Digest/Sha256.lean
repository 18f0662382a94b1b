-- SUMMARY: The SHA-256 digest of a text.
import Docsmith.Text.Quoted

/-!
# SHA-256

The digest of a byte string: the message is padded to whole blocks of sixty-four
bytes, and each block is mixed into eight words of state.
-/

namespace Docsmith.Digest

/-- The first thirty-two bits of the fractional parts of the cube roots of the first
    sixty-four primes. -/
def roundConstants : List UInt32 := [
0x428a2f98, 0x71374491, 0xb5c0fbcf, 0xe9b5dba5, 0x3956c25b, 0x59f111f1, 0x923f82a4, 0xab1c5ed5,
  0xd807aa98, 0x12835b01, 0x243185be, 0x550c7dc3, 0x72be5d74, 0x80deb1fe, 0x9bdc06a7, 0xc19bf174,
  0xe49b69c1, 0xefbe4786, 0x0fc19dc6, 0x240ca1cc, 0x2de92c6f, 0x4a7484aa, 0x5cb0a9dc, 0x76f988da,
  0x983e5152, 0xa831c66d, 0xb00327c8, 0xbf597fc7, 0xc6e00bf3, 0xd5a79147, 0x06ca6351, 0x14292967,
  0x27b70a85, 0x2e1b2138, 0x4d2c6dfc, 0x53380d13, 0x650a7354, 0x766a0abb, 0x81c2c92e, 0x92722c85,
  0xa2bfe8a1, 0xa81a664b, 0xc24b8b70, 0xc76c51a3, 0xd192e819, 0xd6990624, 0xf40e3585, 0x106aa070,
  0x19a4c116, 0x1e376c08, 0x2748774c, 0x34b0bcb5, 0x391c0cb3, 0x4ed8aa4a, 0x5b9cca4f, 0x682e6ff3,
  0x748f82ee, 0x78a5636f, 0x84c87814, 0x8cc70208, 0x90befffa, 0xa4506ceb, 0xbef9a3f7, 0xc67178f2]

/-- The eight words of state. -/
structure State where
  a : UInt32
  b : UInt32
  c : UInt32
  d : UInt32
  e : UInt32
  f : UInt32
  g : UInt32
  h : UInt32

/-- The first thirty-two bits of the fractional parts of the square roots of the first eight
    primes. -/
def State.initial : State :=
  ⟨0x6a09e667, 0xbb67ae85, 0x3c6ef372, 0xa54ff53a,
    0x510e527f, 0x9b05688c, 0x1f83d9ab, 0x5be0cd19⟩

/-- Rotate a word to the right. -/
def rotate (x : UInt32) (n : UInt32) : UInt32 := (x >>> n) ||| (x <<< (32 - n))

/-- One round of mixing. -/
def State.round (s : State) (k w : UInt32) : State :=
  let s1 := rotate s.e 6 ^^^ rotate s.e 11 ^^^ rotate s.e 25
  let ch := (s.e &&& s.f) ^^^ (~~~s.e &&& s.g)
  let t1 := s.h + s1 + ch + k + w
  let s0 := rotate s.a 2 ^^^ rotate s.a 13 ^^^ rotate s.a 22
  let maj := (s.a &&& s.b) ^^^ (s.a &&& s.c) ^^^ (s.b &&& s.c)
  ⟨t1 + s0 + maj, s.a, s.b, s.c, s.d + t1, s.e, s.f, s.g⟩

/-- Add two states word by word. -/
def State.add (s t : State) : State :=
  ⟨s.a + t.a, s.b + t.b, s.c + t.c, s.d + t.d, s.e + t.e, s.f + t.f, s.g + t.g, s.h + t.h⟩

/-- The bytes of the message, a one bit, zeros, and the length in bits in eight bytes. -/
def pad (bs : List UInt8) : List UInt8 :=
  let n := bs.length
  let zeros := (119 - n % 64) % 64
  let size := (List.range 8).map fun i => UInt8.ofNat (8 * n / Nat.pow 256 (7 - i))
  bs ++ 0x80 :: (List.replicate zeros 0 ++ size)

/-- Big-endian words of four bytes. -/
def wordsOf : List UInt8 → List UInt32
  | a :: b :: c :: d :: r =>
    (a.toUInt32 <<< 24 ||| b.toUInt32 <<< 16 ||| c.toUInt32 <<< 8 ||| d.toUInt32) :: wordsOf r
  | _ => []

/-- Extend a schedule of words by one. -/
def extend (ws : Array UInt32) : Array UInt32 :=
  let w (i : Nat) : UInt32 := ws.getD (ws.size - i) 0
  let s0 := rotate (w 15) 7 ^^^ rotate (w 15) 18 ^^^ (w 15 >>> 3)
  let s1 := rotate (w 2) 17 ^^^ rotate (w 2) 19 ^^^ (w 2 >>> 10)
  ws.push (w 16 + s0 + w 7 + s1)

/-- The sixty-four words that a block is mixed in by. -/
def schedule (block : List UInt32) : List UInt32 :=
  ((List.range 48).foldl (fun ws _ => extend ws) block.toArray).toList

/-- Mix one block into the state. -/
def State.absorb (s : State) (block : List UInt32) : State :=
  s.add ((roundConstants.zip (schedule block)).foldl (fun t (k, w) => t.round k w) s)

/-- Mix blocks of sixteen words into the state. -/
def State.absorbAll (s : State) : Nat → List UInt32 → State
  | 0, _ => s
  | n + 1, ws => (s.absorb (ws.take 16)).absorbAll n (ws.drop 16)

/-- The words of the state in order. -/
def State.words (s : State) : List UInt32 := [s.a, s.b, s.c, s.d, s.e, s.f, s.g, s.h]

/-- The digest of a byte string, in hexadecimal digits. -/
def hexOfBytes (bs : List UInt8) : String :=
  let ws := wordsOf (pad bs)
  let final := State.initial.absorbAll (ws.length / 16) ws
  String.ofList (final.words.flatMap fun w => Text.hexPadded 8 w.toNat)

/-- The digest of a text in UTF-8, in hexadecimal digits. -/
def hex (text : String) : String := hexOfBytes text.toUTF8.toList

/-- The short digest that marks a piece of source: sixteen hexadecimal digits. -/
def short (text : String) : String := String.ofList ((hex text).toList.take 16)

end Docsmith.Digest
