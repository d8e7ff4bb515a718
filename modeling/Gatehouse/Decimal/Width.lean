/-!
# Numbers of 64 bits

The whole numbers that a word of 64 bits holds, with a sign and without.
-/

namespace Gatehouse.Decimal

/-- The least number of 64 bits with a sign. -/
def minInt64 : Int := -0x8000000000000000

/-- The largest number of 64 bits with a sign. -/
def maxInt64 : Int := 0x7FFFFFFFFFFFFFFF

/-- Whether 64 bits with a sign hold a number. -/
def isInt64 (n : Int) : Bool := minInt64 ≤ n && n ≤ maxInt64

/-- The largest number of 64 bits without a sign. -/
def maxUInt64 : Nat := 0xFFFFFFFFFFFFFFFF

end Gatehouse.Decimal
