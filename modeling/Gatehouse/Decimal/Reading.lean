import Gatehouse.Decimal.Binary64
import Gatehouse.Decimal.Width
import Gatehouse.Text.Blank

/-!
# Reading decimal numbers

Whole numbers and floating-point numbers that are the whole of a text, without blanks or separators.
-/

namespace Gatehouse.Decimal

/-- The number that digits write. -/
def digits? (s : List Char) : Option Nat :=
  if !s.isEmpty && s.all Char.isDigit then some (s.foldl (fun n c => n * 10 + (c.toNat - '0'.toNat)) 0) else none

/-- A sign, if there is one, and what follows it. -/
def sign (s : List Char) : Bool × List Char :=
  match s with
  | '-' :: rest => (true, rest)
  | '+' :: rest => (false, rest)
  | _ => (false, s)

/-- The number that digits write, with or without a sign. -/
def integer? (s : List Char) : Option Int :=
  (digits? (sign s).2).map fun n => if (sign s).1 then -(n : Int) else n

/-- The signed number of 64 bits that digits write. -/
def int64? (s : List Char) : Option Int :=
  (integer? s).bind fun n => if isInt64 n then some n else none

/-- The unsigned number of 64 bits that digits write, perhaps with a plus sign. -/
def uint64? (s : List Char) : Option Nat :=
  let digits := match s with
    | '+' :: rest => rest
    | _ => s
  (digits? digits).bind fun n => if n ≤ maxUInt64 then some n else none

/-- The unsigned floating-point number that digits write, with or without a point and an exponent. Before or behind the
point there is a digit. -/
def unsigned? (negative : Bool) (s : List Char) : Option Binary64 := do
  let isMark (c : Char) : Bool := c = 'e' || c = 'E'
  let mantissa := s.takeWhile (!isMark ·)
  let power ← match s.drop mantissa.length with
    | [] => some 0
    | _ :: rest => integer? rest
  let whole := mantissa.takeWhile (· ≠ '.')
  let fraction := mantissa.drop (whole.length + 1)
  if whole.isEmpty && fraction.isEmpty then none
  else
    let digits ← digits? (whole ++ fraction)
    some (.ofDecimal negative digits (power - fraction.length))

/-- The floating-point number that a text writes. Letters may be of either case. -/
def float? (s : List Char) : Option Binary64 :=
  let (negative, body) := sign s
  let word := String.ofList (body.map Text.lowerAscii)
  if word = "nan" then some .nan
  else if word = "inf" || word = "infinity" then some (.infinite negative)
  else unsigned? negative body

end Gatehouse.Decimal
