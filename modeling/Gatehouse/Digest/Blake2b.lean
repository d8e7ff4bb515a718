import Gatehouse.Digest.Row

/-!
# BLAKE2b

The hash function of RFC 7693 with 64-bit words, without a key, for any digest length up to 64 bytes.
-/

namespace Gatehouse.Digest.Blake2b

/-- The eight words of the initialization vector. -/
def iv : List UInt64 :=
  [0x6a09e667f3bcc908, 0xbb67ae8584caa73b, 0x3c6ef372fe94f82b, 0xa54ff53a5f1d36f1,
   0x510e527fade682d1, 0x9b05688c2b3e6c1f, 0x1f83d9abfb41bd6b, 0x5be0cd19137e2179]

/-- The order in which each of the twelve rounds takes the message words. -/
def schedule : List (List Nat) :=
  [[0, 1, 2, 3, 4, 5, 6, 7, 8, 9, 10, 11, 12, 13, 14, 15],
   [14, 10, 4, 8, 9, 15, 13, 6, 1, 12, 0, 2, 11, 7, 5, 3],
   [11, 8, 12, 0, 5, 2, 15, 13, 10, 14, 3, 6, 7, 1, 9, 4],
   [7, 9, 3, 1, 13, 12, 11, 14, 2, 6, 5, 10, 4, 0, 15, 8],
   [9, 0, 5, 7, 2, 4, 10, 15, 14, 1, 11, 12, 6, 8, 3, 13],
   [2, 12, 6, 10, 0, 11, 8, 3, 4, 13, 7, 5, 15, 14, 1, 9],
   [12, 5, 1, 15, 14, 13, 4, 10, 0, 7, 6, 3, 9, 2, 8, 11],
   [13, 11, 7, 14, 12, 1, 3, 9, 5, 0, 15, 4, 8, 6, 2, 10],
   [6, 15, 14, 9, 11, 3, 0, 8, 12, 2, 13, 7, 1, 4, 10, 5],
   [10, 2, 8, 4, 7, 6, 1, 5, 15, 11, 9, 14, 3, 12, 13, 0],
   [0, 1, 2, 3, 4, 5, 6, 7, 8, 9, 10, 11, 12, 13, 14, 15],
   [14, 10, 4, 8, 9, 15, 13, 6, 1, 12, 0, 2, 11, 7, 5, 3]]

/-- The mixing of four words with two words of the message. -/
@[inline] def step (x y a b c d : UInt64) : Quad :=
  let a := a + b + x
  let d := rotr64 (d ^^^ a) 32
  let c := c + d
  let b := rotr64 (b ^^^ c) 24
  let a := a + b + y
  let d := rotr64 (d ^^^ a) 16
  let c := c + d
  let b := rotr64 (b ^^^ c) 63
  ⟨a, b, c, d⟩

/-- One round, taking the sixteen message words in the given order. -/
def round (message : Array UInt64) (v : Row) (order : List Nat) : Row :=
  let word (i : Nat) : UInt64 := message.getD (order.getD i 0) 0
  v.mix fun i a b c d => step (word (2 * i)) (word (2 * i + 1)) a b c d

/-- The chaining value after one block, of which `counter` is the number of message bytes up to its end. -/
def compress (h : List UInt64) (message : Array UInt64) (counter : Nat) (last : Bool) : List UInt64 :=
  let v := (h ++ iv.take 4 ++
    [iv.getD 4 0 ^^^ counter.toUInt64, iv.getD 5 0 ^^^ (counter / UInt64.size).toUInt64,
      if last then ~~~(iv.getD 6 0) else iv.getD 6 0, iv.getD 7 0]).toArray
  let worked := ((schedule.foldl (round message) (Row.ofArray v 0)).toList)
  (h.zip (worked.zip (worked.drop 8))).map fun (x, y, z) => x ^^^ y ^^^ z

/-- Absorbs a message of `length` bytes from byte `done` on, at most `blocks` blocks. -/
def absorb (length : Nat) : (blocks : Nat) → (h : List UInt64) → (done : Nat) → List UInt8 → List UInt64
  | 0, h, _, _ => h
  | blocks + 1, h, done, rest =>
    let block := rest.take 128
    let message := (words64OfBytes (block ++ List.replicate (128 - block.length) 0)).toArray
    if length ≤ done + 128 then compress h message length true
    else absorb length blocks (compress h message (done + 128) false) (done + 128) (rest.drop 128)

/-- The digest of a message, `size` bytes of it, at most 64. -/
def hash (size : Nat) (message : List UInt8) : List UInt8 :=
  let start := match iv with
    | [] => []
    | w :: ws => (w ^^^ (0x01010000 + size.toUInt64)) :: ws
  let h := absorb message.length (message.length / 128 + 1) start 0 message
  (h.flatMap bytesOfWord64).take size

end Gatehouse.Digest.Blake2b
