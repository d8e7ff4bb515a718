import Gatehouse.Digest.Blake2b

/-!
# Argon2

The memory-hard function of RFC 9106 in its three variants and both versions. Memory is an array of blocks, a
block is eight rows, and compressing two blocks mixes the rows of their exclusive or, then its columns, which are
the rows of the transposed block.
-/

namespace Gatehouse.Digest.Argon2

/-- How a block chooses the earlier block that it is made from. -/
inductive Variant
  /-- By the data, as fast as possible. -/
  | d
  /-- By its place alone. -/
  | i
  /-- By its place in the first half of the first pass, and then by the data. -/
  | id
  deriving DecidableEq

/-- The number of a variant in the first hash. -/
def Variant.number : Variant → Nat
  | .d => 0
  | .i => 1
  | .id => 2

/-- Whether later passes overwrite a block or are added to it. -/
inductive Version
  | v16
  | v19
  deriving DecidableEq

/-- The number of a version, in the first hash and in hash texts. -/
def Version.number : Version → Nat
  | .v16 => 16
  | .v19 => 19

/-- What a hash is made with, the password and the salt apart. -/
structure Cost where
  /-- Memory in blocks of one kibibyte. -/
  memory : Nat
  passes : Nat
  lanes : Nat
  deriving DecidableEq

/-- One kibibyte: eight rows of sixteen words. -/
structure Block where
  r0 : Row
  r1 : Row
  r2 : Row
  r3 : Row
  r4 : Row
  r5 : Row
  r6 : Row
  r7 : Row

namespace Block

/-- The block of zeros. -/
def zero : Block := ⟨.zero, .zero, .zero, .zero, .zero, .zero, .zero, .zero⟩

instance : Inhabited Block := ⟨zero⟩

/-- Row by row exclusive or. -/
def xor (x y : Block) : Block :=
  ⟨x.r0.xor y.r0, x.r1.xor y.r1, x.r2.xor y.r2, x.r3.xor y.r3,
    x.r4.xor y.r4, x.r5.xor y.r5, x.r6.xor y.r6, x.r7.xor y.r7⟩

/-- One row of the transposed block: the same pair of words of each row. -/
@[inline] def column (pick : Row → UInt64 × UInt64) (x : Block) : Row :=
  let p0 := pick x.r0; let p1 := pick x.r1; let p2 := pick x.r2; let p3 := pick x.r3
  let p4 := pick x.r4; let p5 := pick x.r5; let p6 := pick x.r6; let p7 := pick x.r7
  ⟨p0.1, p0.2, p1.1, p1.2, p2.1, p2.2, p3.1, p3.2, p4.1, p4.2, p5.1, p5.2, p6.1, p6.2, p7.1, p7.2⟩

/-- The block as an eight by eight square of pairs of words, mirrored at its diagonal. -/
def transpose (x : Block) : Block :=
  ⟨x.column fun r => (r.w0, r.w1),
    x.column fun r => (r.w2, r.w3),
    x.column fun r => (r.w4, r.w5),
    x.column fun r => (r.w6, r.w7),
    x.column fun r => (r.w8, r.w9),
    x.column fun r => (r.w10, r.w11),
    x.column fun r => (r.w12, r.w13),
    x.column fun r => (r.w14, r.w15)⟩

/-- The mixing of four words, where products of their low halves take the place of message words. -/
@[inline] def step (a b c d : UInt64) : Quad :=
  let sum (x y : UInt64) : UInt64 := x + y + 2 * (x &&& 0xFFFFFFFF) * (y &&& 0xFFFFFFFF)
  let a := sum a b
  let d := rotr64 (d ^^^ a) 32
  let c := sum c d
  let b := rotr64 (b ^^^ c) 24
  let a := sum a b
  let d := rotr64 (d ^^^ a) 16
  let c := sum c d
  let b := rotr64 (b ^^^ c) 63
  ⟨a, b, c, d⟩

/-- One row, mixed. -/
def mixRow (r : Row) : Row := r.mix fun _ => step

/-- Each row, mixed. -/
def mixRows (x : Block) : Block :=
  ⟨mixRow x.r0, mixRow x.r1, mixRow x.r2, mixRow x.r3,
    mixRow x.r4, mixRow x.r5, mixRow x.r6, mixRow x.r7⟩

/-- The block that two blocks are compressed to. -/
def compress (x y : Block) : Block :=
  let r := x.xor y
  (r.mixRows.transpose.mixRows.transpose).xor r

/-- The block of 1024 bytes. -/
def ofBytes (bytes : List UInt8) : Block :=
  let words := (words64OfBytes bytes).toArray
  ⟨.ofArray words 0, .ofArray words 16, .ofArray words 32, .ofArray words 48,
    .ofArray words 64, .ofArray words 80, .ofArray words 96, .ofArray words 112⟩

/-- The words in order. -/
def words (x : Block) : List UInt64 :=
  x.r0.toList ++ x.r1.toList ++ x.r2.toList ++ x.r3.toList
    ++ x.r4.toList ++ x.r5.toList ++ x.r6.toList ++ x.r7.toList

/-- The block whose first words are given and whose others are zero. -/
def ofWords (words : List UInt64) : Block := { zero with r0 := .ofArray words.toArray 0 }

end Block

/-- A number as four bytes, the lowest first. -/
def bytesOfNat32 (n : Nat) : List UInt8 :=
  [n.toUInt8, (n / 256).toUInt8, (n / 65536).toUInt8, (n / 16777216).toUInt8]

/-- The halves of the hashes that a long output is made of; `size` is what is still wanted, more than 64 bytes. -/
def longOutput (previous : List UInt8) : (steps : Nat) → (size : Nat) → List UInt8
  | 0, _ => []
  | steps + 1, size =>
    if size ≤ 64 then Blake2b.hash size previous
    else
      let next := Blake2b.hash 64 previous
      next.take 32 ++ longOutput next steps (size - 32)

/-- The hash with output of any length. -/
def hashTo (size : Nat) (message : List UInt8) : List UInt8 :=
  let sized := bytesOfNat32 size ++ message
  if size ≤ 64 then Blake2b.hash size sized
  else
    let first := Blake2b.hash 64 sized
    first.take 32 ++ longOutput first (size / 32) (size - 32)

/-- What stays the same while memory is filled. -/
structure Plan where
  variant : Variant
  version : Version
  passes : Nat
  lanes : Nat
  /-- Blocks in a quarter of a lane. -/
  quarter : Nat

/-- Blocks in a lane. -/
def Plan.lane (plan : Plan) : Nat := 4 * plan.quarter

/-- The place that is being filled: a pass, a quarter of the lanes, and one lane. -/
structure Segment where
  pass : Nat
  slice : Nat
  lane : Nat

/-- Whether blocks of a segment choose by their place. -/
def Plan.choosesByPlace (plan : Plan) (s : Segment) : Bool :=
  match plan.variant with
  | .d => false
  | .i => true
  | .id => s.pass = 0 && s.slice < 2

/-- The 128 choices by place of one segment, for the given run of 128 blocks, counted from one. -/
def Plan.choices (plan : Plan) (s : Segment) (run : Nat) : Array UInt64 :=
  let seed := Block.ofWords
    [s.pass.toUInt64, s.lane.toUInt64, s.slice.toUInt64, (plan.lane * plan.lanes).toUInt64, plan.passes.toUInt64,
      plan.variant.number.toUInt64, run.toUInt64]
  (Block.zero.compress (Block.zero.compress seed)).words.toArray

/-- The lane and the place in it that a choice refers to, for the block at `index` of a segment. -/
def Plan.reference (plan : Plan) (s : Segment) (index : Nat) (choice : UInt64) : Nat × Nat :=
  let low := (choice &&& 0xFFFFFFFF).toNat
  let high := (choice >>> 32).toNat
  let lane := if s.pass = 0 && s.slice = 0 then s.lane else high % plan.lanes
  let finished := if s.pass = 0 then s.slice * plan.quarter else plan.lane - plan.quarter
  let area :=
    if lane = s.lane then finished + index - 1
    else if index = 0 then finished - 1
    else finished
  let offset := area - 1 - (area * (low * low / UInt32.size)) / UInt32.size
  let start := if s.pass = 0 || s.slice = 3 then 0 else (s.slice + 1) * plan.quarter
  (lane, (start + offset) % plan.lane)

/-- Fills the blocks of a segment from `index` on, `count` of them. -/
def Plan.fillSegment (plan : Plan) (s : Segment) :
    (count : Nat) → (index : Nat) → (choices : Array UInt64) → Array Block → Array Block
  | 0, _, _, memory => memory
  | count + 1, index, choices, memory =>
    let base := s.lane * plan.lane
    let place := s.slice * plan.quarter + index
    let previous := memory.getD (base + (place + plan.lane - 1) % plan.lane) .zero
    let choices :=
      if plan.choosesByPlace s && (choices.isEmpty || index % 128 = 0) then plan.choices s (index / 128 + 1)
      else choices
    let choice := if plan.choosesByPlace s then choices.getD (index % 128) 0 else previous.r0.w0
    let (lane, offset) := plan.reference s index choice
    let made := previous.compress (memory.getD (lane * plan.lane + offset) .zero)
    let made :=
      if s.pass ≠ 0 && plan.version = .v19 then made.xor (memory.getD (base + place) .zero) else made
    plan.fillSegment s count (index + 1) choices (memory.setIfInBounds (base + place) made)

/-- Fills all of memory, pass by pass, quarter by quarter, lane by lane. -/
def Plan.fill (plan : Plan) (memory : Array Block) : Array Block :=
  (List.range plan.passes).foldl (fun memory pass =>
    (List.range 4).foldl (fun memory slice =>
      (List.range plan.lanes).foldl (fun memory lane =>
        let start := if pass = 0 && slice = 0 then 2 else 0
        plan.fillSegment ⟨pass, slice, lane⟩ (plan.quarter - start) start #[] memory)
        memory)
      memory)
    memory

/-- The hash of a password, `size` bytes, with salt and associated data. -/
def hash (variant : Variant) (version : Version) (cost : Cost) (size : Nat)
    (password salt associated : List UInt8) : List UInt8 :=
  let counted (bytes : List UInt8) : List UInt8 := bytesOfNat32 bytes.length ++ bytes
  let seed := Blake2b.hash 64
    (bytesOfNat32 cost.lanes ++ bytesOfNat32 size ++ bytesOfNat32 cost.memory ++ bytesOfNat32 cost.passes
      ++ bytesOfNat32 version.number ++ bytesOfNat32 variant.number
      ++ counted password ++ counted salt ++ counted [] ++ counted associated)
  let plan : Plan := ⟨variant, version, cost.passes, cost.lanes, cost.memory / (4 * cost.lanes)⟩
  let empty := Array.replicate (plan.lane * plan.lanes) Block.zero
  let seeded := (List.range cost.lanes).foldl (fun memory lane =>
    let start (i : Nat) : Block := .ofBytes (hashTo 1024 (seed ++ bytesOfNat32 i ++ bytesOfNat32 lane))
    (memory.setIfInBounds (lane * plan.lane) (start 0)).setIfInBounds (lane * plan.lane + 1) (start 1)) empty
  let filled := plan.fill seeded
  let last := (List.range cost.lanes).foldl (fun sum lane =>
    sum.xor (filled.getD (lane * plan.lane + plan.lane - 1) .zero)) Block.zero
  hashTo size (last.words.flatMap bytesOfWord64)

end Gatehouse.Digest.Argon2
