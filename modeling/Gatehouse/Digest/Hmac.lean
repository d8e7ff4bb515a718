import Gatehouse.Digest.Sha256

/-!
# HMAC

The keyed hash of RFC 2104 over SHA-256, whose blocks are 64 bytes.
-/

namespace Gatehouse.Digest

/-- A key brought to the length of one block: hashed when it is longer, then filled up with zeros. -/
def hmacKeyBlock (key : List UInt8) : List UInt8 :=
  let short := if key.length > 64 then Sha256.hash key else key
  short ++ List.replicate (64 - short.length) 0

/-- The authentication code of a message under a key. -/
def hmacSha256 (key message : List UInt8) : List UInt8 :=
  let block := hmacKeyBlock key
  let inner := Sha256.hash (block.map (· ^^^ 0x36) ++ message)
  Sha256.hash (block.map (· ^^^ 0x5c) ++ inner)

end Gatehouse.Digest
