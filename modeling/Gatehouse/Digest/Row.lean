/-!
# Rows of sixteen words

The unit on which BLAKE2b and Argon2 mix: sixteen 64-bit words, mixed four by four, first along the columns and then
along the diagonals of the four by four square that they form. A row is a structure of words, so it has sixteen by
its type and is held without indirection.
-/

namespace Gatehouse.Digest

/-- Sixteen 64-bit words. -/
structure Row where
  w0 : UInt64
  w1 : UInt64
  w2 : UInt64
  w3 : UInt64
  w4 : UInt64
  w5 : UInt64
  w6 : UInt64
  w7 : UInt64
  w8 : UInt64
  w9 : UInt64
  w10 : UInt64
  w11 : UInt64
  w12 : UInt64
  w13 : UInt64
  w14 : UInt64
  w15 : UInt64
  deriving DecidableEq

/-- Four words that are mixed together. -/
structure Quad where
  a : UInt64
  b : UInt64
  c : UInt64
  d : UInt64

/-- Rotation to the right. -/
@[inline] def rotr64 (x n : UInt64) : UInt64 := (x >>> n) ||| (x <<< (64 - n))

namespace Row

/-- The row of zeros. -/
def zero : Row := ⟨0, 0, 0, 0, 0, 0, 0, 0, 0, 0, 0, 0, 0, 0, 0, 0⟩

/-- The row whose words start at one place of an array; words beyond its end are zero. -/
def ofArray (words : Array UInt64) (start : Nat) : Row :=
  let word (i : Nat) : UInt64 := words.getD (start + i) 0
  ⟨word 0, word 1, word 2, word 3, word 4, word 5, word 6, word 7,
    word 8, word 9, word 10, word 11, word 12, word 13, word 14, word 15⟩

/-- The words in order. -/
def toList (r : Row) : List UInt64 :=
  [r.w0, r.w1, r.w2, r.w3, r.w4, r.w5, r.w6, r.w7,
    r.w8, r.w9, r.w10, r.w11, r.w12, r.w13, r.w14, r.w15]

/-- Word by word exclusive or. -/
def xor (r s : Row) : Row :=
  ⟨r.w0 ^^^ s.w0, r.w1 ^^^ s.w1, r.w2 ^^^ s.w2, r.w3 ^^^ s.w3,
    r.w4 ^^^ s.w4, r.w5 ^^^ s.w5, r.w6 ^^^ s.w6, r.w7 ^^^ s.w7,
    r.w8 ^^^ s.w8, r.w9 ^^^ s.w9, r.w10 ^^^ s.w10, r.w11 ^^^ s.w11,
    r.w12 ^^^ s.w12, r.w13 ^^^ s.w13, r.w14 ^^^ s.w14, r.w15 ^^^ s.w15⟩

/-- Mixes the columns with steps 0 to 3 and the diagonals with steps 4 to 7. -/
@[inline] def mix (step : Nat → UInt64 → UInt64 → UInt64 → UInt64 → Quad) (r : Row) : Row :=
  let c0 := step 0 r.w0 r.w4 r.w8 r.w12
  let c1 := step 1 r.w1 r.w5 r.w9 r.w13
  let c2 := step 2 r.w2 r.w6 r.w10 r.w14
  let c3 := step 3 r.w3 r.w7 r.w11 r.w15
  let d0 := step 4 c0.a c1.b c2.c c3.d
  let d1 := step 5 c1.a c2.b c3.c c0.d
  let d2 := step 6 c2.a c3.b c0.c c1.d
  let d3 := step 7 c3.a c0.b c1.c c2.d
  ⟨d0.a, d1.a, d2.a, d3.a, d3.b, d0.b, d1.b, d2.b, d2.c, d3.c, d0.c, d1.c, d1.d, d2.d, d3.d, d0.d⟩

end Row

/-- The words of some bytes, the lowest byte first; a last group of fewer than eight bytes is dropped. -/
def words64OfBytes : List UInt8 → List UInt64
  | a :: b :: c :: d :: e :: f :: g :: h :: rest =>
    (a.toUInt64 ||| b.toUInt64 <<< 8 ||| c.toUInt64 <<< 16 ||| d.toUInt64 <<< 24 ||| e.toUInt64 <<< 32
      ||| f.toUInt64 <<< 40 ||| g.toUInt64 <<< 48 ||| h.toUInt64 <<< 56) :: words64OfBytes rest
  | _ => []

/-- The eight bytes of a word, the lowest first. -/
def bytesOfWord64 (w : UInt64) : List UInt8 :=
  [w.toUInt8, (w >>> 8).toUInt8, (w >>> 16).toUInt8, (w >>> 24).toUInt8,
    (w >>> 32).toUInt8, (w >>> 40).toUInt8, (w >>> 48).toUInt8, (w >>> 56).toUInt8]

end Gatehouse.Digest
