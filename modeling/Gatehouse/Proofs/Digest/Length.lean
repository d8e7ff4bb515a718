import Mathlib
import Gatehouse.Digest.Argon2

/-!
# How long digests are

A digest has the length that is asked for, up to 64 bytes, whatever is hashed: the chaining value keeps its eight words
from block to block.
-/

namespace Gatehouse.Digest

/-- Words are eight bytes each. -/
theorem length_flatMap_bytesOfWord64 (words : List UInt64) :
    (words.flatMap bytesOfWord64).length = 8 * words.length := by
  induction words with
  | nil => rfl
  | cons w words ih =>
    have hword : (bytesOfWord64 w).length = 8 := rfl
    rw [List.flatMap_cons, List.length_append, ih, hword, List.length_cons]
    omega

namespace Blake2b

/-- The chaining value after a block has as many words as before, up to eight. -/
theorem length_compress {h : List UInt64} (hlength : h.length = 8) (message : Array UInt64) (counter : Nat)
    (last : Bool) :
    (compress h message counter last).length = 8 := by
  simp only [compress, List.length_map, List.length_zip, List.length_drop, Row.toList, List.length_cons,
    List.length_nil, hlength]
  rfl

/-- The chaining value keeps its eight words while a message is absorbed. -/
theorem length_absorb {length blocks done : Nat} {h : List UInt64} {rest : List UInt8} (hlength : h.length = 8) :
    (absorb length blocks h done rest).length = 8 := by
  induction blocks generalizing h done rest with
  | zero => exact hlength
  | succ blocks ih =>
    rw [absorb]
    split_ifs
    · exact length_compress hlength _ _ _
    · exact ih (length_compress hlength _ _ _)

/-- A digest of at most 64 bytes has the length that is asked for. -/
theorem length_hash {size : Nat} (hsize : size ≤ 64) (message : List UInt8) : (hash size message).length = size := by
  unfold hash
  rw [List.length_take, length_flatMap_bytesOfWord64, length_absorb]
  · omega
  · rfl

end Blake2b

/-- An Argon2 hash of at most 64 bytes has the length that is asked for. -/
theorem Argon2.length_hash {size : Nat} (hsize : size ≤ 64) (variant : Variant) (version : Version) (cost : Cost)
    (password salt associated : List UInt8) :
    (hash variant version cost size password salt associated).length = size := by
  unfold hash hashTo
  dsimp only
  rw [if_pos hsize]
  exact Blake2b.length_hash hsize _

end Gatehouse.Digest
