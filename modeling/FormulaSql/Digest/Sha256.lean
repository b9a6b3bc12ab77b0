import FormulaSql.Text.Quoted

/-!
# SHA-256

The digest of a row of bytes, written in hexadecimal.
-/

namespace FormulaSql.Digest

/-- The eight words of the running state. -/
structure Words where
  a : UInt32
  b : UInt32
  c : UInt32
  d : UInt32
  e : UInt32
  f : UInt32
  g : UInt32
  h : UInt32
  deriving Repr, DecidableEq

/-- The state before the first block. -/
def initial : Words :=
  ⟨0x6a09e667, 0xbb67ae85, 0x3c6ef372, 0xa54ff53a, 0x510e527f, 0x9b05688c, 0x1f83d9ab, 0x5be0cd19⟩

/-- The round constants. -/
def constants : List UInt32 := [
  0x428a2f98, 0x71374491, 0xb5c0fbcf, 0xe9b5dba5, 0x3956c25b, 0x59f111f1, 0x923f82a4, 0xab1c5ed5,
  0xd807aa98, 0x12835b01, 0x243185be, 0x550c7dc3, 0x72be5d74, 0x80deb1fe, 0x9bdc06a7, 0xc19bf174,
  0xe49b69c1, 0xefbe4786, 0x0fc19dc6, 0x240ca1cc, 0x2de92c6f, 0x4a7484aa, 0x5cb0a9dc, 0x76f988da,
  0x983e5152, 0xa831c66d, 0xb00327c8, 0xbf597fc7, 0xc6e00bf3, 0xd5a79147, 0x06ca6351, 0x14292967,
  0x27b70a85, 0x2e1b2138, 0x4d2c6dfc, 0x53380d13, 0x650a7354, 0x766a0abb, 0x81c2c92e, 0x92722c85,
  0xa2bfe8a1, 0xa81a664b, 0xc24b8b70, 0xc76c51a3, 0xd192e819, 0xd6990624, 0xf40e3585, 0x106aa070,
  0x19a4c116, 0x1e376c08, 0x2748774c, 0x34b0bcb5, 0x391c0cb3, 0x4ed8aa4a, 0x5b9cca4f, 0x682e6ff3,
  0x748f82ee, 0x78a5636f, 0x84c87814, 0x8cc70208, 0x90befffa, 0xa4506ceb, 0xbef9a3f7, 0xc67178f2]

/-- Rotates a word to the right. -/
def rotate (x n : UInt32) : UInt32 :=
  (x >>> n) ||| (x <<< (32 - n))

/-- The next word of the schedule, whose words stand latest first. -/
def nextWord (latest : List UInt32) : UInt32 :=
  let w (i : Nat) : UInt32 := latest[i]?.getD 0
  let s₀ := rotate (w 14) 7 ^^^ rotate (w 14) 18 ^^^ (w 14 >>> 3)
  let s₁ := rotate (w 1) 17 ^^^ rotate (w 1) 19 ^^^ (w 1 >>> 10)
  w 15 + s₀ + w 6 + s₁

/-- Lengthens the schedule by a number of words. -/
def lengthen : Nat → List UInt32 → List UInt32
  | 0, latest => latest
  | n + 1, latest => lengthen n (nextWord latest :: latest)

/-- The schedule of a block of sixteen words. -/
def schedule (block : List UInt32) : List UInt32 :=
  (lengthen 48 block.reverse).reverse

/-- One round. -/
def round (s : Words) (kw : UInt32 × UInt32) : Words :=
  let s₁ := rotate s.e 6 ^^^ rotate s.e 11 ^^^ rotate s.e 25
  let ch := (s.e &&& s.f) ^^^ (~~~s.e &&& s.g)
  let t₁ := s.h + s₁ + ch + kw.1 + kw.2
  let s₀ := rotate s.a 2 ^^^ rotate s.a 13 ^^^ rotate s.a 22
  let maj := (s.a &&& s.b) ^^^ (s.a &&& s.c) ^^^ (s.b &&& s.c)
  ⟨t₁ + (s₀ + maj), s.a, s.b, s.c, s.d + t₁, s.e, s.f, s.g⟩

/-- The state behind a block. -/
def compress (s : Words) (block : List UInt32) : Words :=
  let t := (constants.zip (schedule block)).foldl round s
  ⟨s.a + t.a, s.b + t.b, s.c + t.c, s.d + t.d, s.e + t.e, s.f + t.f, s.g + t.g, s.h + t.h⟩

/-- Joins bytes to words, four by four; a row that stops short is dropped. -/
def words : List UInt8 → List UInt32
  | a :: b :: c :: d :: rest =>
    ((a.toUInt32 <<< 24) ||| (b.toUInt32 <<< 16) ||| (c.toUInt32 <<< 8) ||| d.toUInt32) :: words rest
  | _ => []

/-- The last bytes: a mark, zeros, and the length in bits as eight bytes. -/
def padding (length : Nat) : List UInt8 :=
  let bits := 8 * length
  0x80 :: (List.replicate ((119 - length % 64) % 64) 0 ++
    (List.range 8).map fun i => UInt8.ofNat (bits / Nat.pow 2 (8 * (7 - i)) % 256))

/-- Takes in a number of blocks. -/
def absorb : Nat → Words → List UInt32 → Words
  | 0, s, _ => s
  | n + 1, s, ws => absorb n (compress s (ws.take 16)) (ws.drop 16)

/-- The final state of a row of bytes. -/
def digest (bytes : List UInt8) : Words :=
  let ws := words (bytes ++ padding bytes.length)
  absorb (ws.length / 16) initial ws

/-- The digest in hexadecimal. -/
def sha256 (bytes : List UInt8) : String :=
  let s := digest bytes
  String.join ([s.a, s.b, s.c, s.d, s.e, s.f, s.g, s.h].map fun w => Text.hex 8 w.toNat)

end FormulaSql.Digest
