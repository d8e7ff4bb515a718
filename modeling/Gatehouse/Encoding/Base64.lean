/-!
# Base64 without padding

Bytes as text in an alphabet of 64 characters, three bytes to four characters. A last group of one or two bytes
is written with two or three characters and no padding, and is read only when the bits that it leaves over are
zero, so that every byte list has one text and every text that is read is the text of what it is read as.
-/

namespace Gatehouse.Encoding

/-- The two characters in which the alphabets differ: the digits 62 and 63. -/
structure Base64 where
  plus : Char
  slash : Char

namespace Base64

/-- The alphabet that is safe in addresses and file names. -/
def urlSafe : Base64 := ⟨'-', '_'⟩

/-- The alphabet of mail and of password hashes. -/
def standard : Base64 := ⟨'+', '/'⟩

/-- The character for a digit below 64. -/
def digit (alphabet : Base64) (n : Nat) : Char :=
  if n < 26 then Char.ofNat ('A'.toNat + n)
  else if n < 52 then Char.ofNat ('a'.toNat + (n - 26))
  else if n < 62 then Char.ofNat ('0'.toNat + (n - 52))
  else if n = 62 then alphabet.plus
  else alphabet.slash

/-- The digit that a character stands for. -/
def value? (alphabet : Base64) (c : Char) : Option Nat :=
  if 'A' ≤ c ∧ c ≤ 'Z' then some (c.toNat - 'A'.toNat)
  else if 'a' ≤ c ∧ c ≤ 'z' then some (c.toNat - 'a'.toNat + 26)
  else if '0' ≤ c ∧ c ≤ '9' then some (c.toNat - '0'.toNat + 52)
  else if c = alphabet.plus then some 62
  else if c = alphabet.slash then some 63
  else none

/-- The text of some bytes. -/
def encode (alphabet : Base64) : List UInt8 → List Char
  | [] => []
  | [a] => [alphabet.digit (a.toNat / 4), alphabet.digit (a.toNat % 4 * 16)]
  | [a, b] =>
    [alphabet.digit (a.toNat / 4), alphabet.digit (a.toNat % 4 * 16 + b.toNat / 16),
      alphabet.digit (b.toNat % 16 * 4)]
  | a :: b :: c :: rest =>
    alphabet.digit (a.toNat / 4) :: alphabet.digit (a.toNat % 4 * 16 + b.toNat / 16)
      :: alphabet.digit (b.toNat % 16 * 4 + c.toNat / 64) :: alphabet.digit (c.toNat % 64)
      :: encode alphabet rest

/-- The bytes whose text this is. -/
def decode? (alphabet : Base64) : List Char → Option (List UInt8)
  | [] => some []
  | [_] => none
  | [c0, c1] => do
    let v0 ← alphabet.value? c0
    let v1 ← alphabet.value? c1
    if v1 % 16 = 0 then some [(v0 * 4 + v1 / 16).toUInt8] else none
  | [c0, c1, c2] => do
    let v0 ← alphabet.value? c0
    let v1 ← alphabet.value? c1
    let v2 ← alphabet.value? c2
    if v2 % 4 = 0 then some [(v0 * 4 + v1 / 16).toUInt8, (v1 % 16 * 16 + v2 / 4).toUInt8] else none
  | c0 :: c1 :: c2 :: c3 :: rest => do
    let v0 ← alphabet.value? c0
    let v1 ← alphabet.value? c1
    let v2 ← alphabet.value? c2
    let v3 ← alphabet.value? c3
    let bytes ← decode? alphabet rest
    some ((v0 * 4 + v1 / 16).toUInt8 :: (v1 % 16 * 16 + v2 / 4).toUInt8 :: (v2 % 4 * 64 + v3).toUInt8 :: bytes)

end Base64

end Gatehouse.Encoding
