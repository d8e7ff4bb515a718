/-!
# Hexadecimal digits

One digit as a character and back. Writing uses lower case, reading takes either case.
-/

namespace Gatehouse.Encoding.Hex

/-- The character for a digit below 16. -/
def digit (n : Nat) : Char := if n < 10 then Char.ofNat ('0'.toNat + n) else Char.ofNat ('a'.toNat + (n - 10))

/-- The digit that a character stands for. -/
def value? (c : Char) : Option Nat :=
  if '0' ≤ c ∧ c ≤ '9' then some (c.toNat - '0'.toNat)
  else if 'a' ≤ c ∧ c ≤ 'f' then some (c.toNat - 'a'.toNat + 10)
  else if 'A' ≤ c ∧ c ≤ 'F' then some (c.toNat - 'A'.toNat + 10)
  else none

/-- The two digits of a byte. -/
def ofByte (b : UInt8) : List Char := [digit (b.toNat / 16), digit (b.toNat % 16)]

/-- The bytes whose digits these are. -/
def decode? : List Char → Option (List UInt8)
  | [] => some []
  | [_] => none
  | high :: low :: rest => do
    let h ← value? high
    let l ← value? low
    let bytes ← decode? rest
    some ((h * 16 + l).toUInt8 :: bytes)

/-- The number that some digits write, at least one of them. -/
def toNat? (digits : List Char) : Option Nat :=
  if digits.isEmpty then none
  else (digits.mapM value?).map fun ds => ds.foldl (fun n d => n * 16 + d) 0

/-- The character whose code point some digits write. -/
def character? (digits : List Char) : Option Char :=
  (toNat? digits).bind fun n => if n < 0xD800 ∨ (0xDFFF < n ∧ n < 0x110000) then some (Char.ofNat n) else none

/-- The digits of a number, without leading zeros; zero has one digit. -/
def ofNat (n : Nat) : List Char := Nat.toDigits 16 n

end Gatehouse.Encoding.Hex
