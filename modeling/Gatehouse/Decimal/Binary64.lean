/-!
# Binary floating-point numbers, exactly

A number of the 64-bit binary format is kept as a sign, a whole mantissa and a power of two, and all of its
arithmetic is on whole numbers. Reading a decimal rounds to the nearest number of the format, ties to the even
mantissa; writing gives the fewest digits that read back, and of those the ones nearest to the number.
-/

namespace Gatehouse

/-- A number of the 64-bit binary format. -/
inductive Binary64
  | nan
  | infinite (negative : Bool)
  /-- `mantissa * 2 ^ exponent`, with its sign. -/
  | finite (negative : Bool) (mantissa : Nat) (exponent : Int)
  deriving DecidableEq, Repr

namespace Binary64

/-- The numerator and the denominator of `m * base ^ e`. -/
def ratio (m base : Nat) (e : Int) : Nat × Nat :=
  if 0 ≤ e then (m * base.pow e.toNat, 1) else (m, base.pow e.natAbs)

/-- A quotient rounded to the nearest whole number, ties to even. -/
def roundToEven (num den : Nat) : Nat :=
  let q := num / den
  let twice := 2 * (num % den)
  if twice < den then q else if den < twice then q + 1 else if q % 2 = 0 then q else q + 1

/-- The least mantissa that fills the format's 53 bits. -/
def leastFull : Nat := 0x10000000000000

/-- The format's number nearest to `num / den`, where `num` is not zero. -/
def nearest (negative : Bool) (num den : Nat) : Binary64 :=
  let guess : Int := (num.log2 : Int) - den.log2 - 52
  let scaled (e : Int) : Nat × Nat := (num * (ratio 1 2 (-e)).1, den * (ratio 1 2 (-e)).2)
  let tooSmall (e : Int) : Bool := (scaled e).1 < leastFull * (scaled e).2
  let exponent := max (if tooSmall guess then guess - 1 else guess) (-1074)
  let mantissa := roundToEven (scaled exponent).1 (scaled exponent).2
  let (mantissa, exponent) := if mantissa = 2 * leastFull then (leastFull, exponent + 1) else (mantissa, exponent)
  if 971 < exponent then .infinite negative else .finite negative mantissa exponent

/-- The format's number nearest to `digits * 10 ^ exponent`. -/
def ofDecimal (negative : Bool) (digits : Nat) (exponent : Int) : Binary64 :=
  let magnitude := (Nat.toDigits 10 digits).length + exponent
  if digits = 0 || magnitude < -330 then .finite negative 0 0
  else if 310 < magnitude then .infinite negative
  else
    let (num, den) := ratio digits 10 exponent
    nearest negative num den

/-- The number nearest to a whole number. -/
def ofNat (negative : Bool) (n : Nat) : Binary64 := ofDecimal negative n 0

/-- The whole number nearest to a finite number, halves away from zero; `none` when there is none. -/
def round? : Binary64 → Option Int
  | .finite negative m e =>
    let (num, den) := ratio m 2 e
    let n : Int := ((2 * num + den) / (2 * den) : Nat)
    some (if negative then -n else n)
  | _ => none

/-- Whole digits `d` and a place `p`, for the decimal `0.d * 10 ^ p`. -/
structure Digits where
  digits : List Char
  place : Int

/-- Of the decimals with `count` digits that neighbour `num / den`, the nearest that lies between the bounds
`low / (4 * den)` and `high / (4 * den)`; `place` is that of the number. -/
def candidate? (num den low high : Nat) (closed : Bool) (place : Int) (count : Nat) : Option Nat :=
  let shift := place - count
  let (unitNum, unitDen) := ratio 1 10 shift
  let below := num * unitDen / (den * unitNum)
  let inside (d : Nat) : Bool :=
    let left := 4 * d * unitNum * den
    let bottom := low * unitDen
    let top := high * unitDen
    if closed then bottom ≤ left && left ≤ top else bottom < left && left < top
  let distanceBelow := num * unitDen - below * unitNum * den
  let distanceAbove := (below + 1) * unitNum * den - num * unitDen
  match inside below, inside (below + 1) with
  | false, false => none
  | true, false => some below
  | false, true => some (below + 1)
  | true, true =>
    if distanceBelow < distanceAbove then some below
    else if distanceAbove < distanceBelow then some (below + 1)
    else if below % 2 = 0 then some below else some (below + 1)

/-- The least `p` with `num / den < 10 ^ p`, searched upwards from `p` in at most `fuel` steps. -/
def placeFrom (num den : Nat) : (fuel : Nat) → (p : Int) → Int
  | 0, p => p
  | fuel + 1, p =>
    let (unitNum, unitDen) := ratio 1 10 p
    if num * unitDen < den * unitNum then p else placeFrom num den fuel (p + 1)

/-- The fewest digits that read back as `mantissa * 2 ^ exponent`, where the mantissa is not zero. -/
def shortest (mantissa : Nat) (exponent : Int) : Digits :=
  let (num, den) := ratio mantissa 2 exponent
  -- A quarter of the gap to the next number is `unit / (4 * den)`.
  let unit := (ratio 1 2 exponent).1
  let narrow := mantissa = leastFull && -1074 < exponent
  let low := 4 * num - (if narrow then unit else 2 * unit)
  let high := 4 * num + 2 * unit
  let estimate : Int := ((num.log2 : Int) - den.log2 - 1) * 30103 / 100000 - 1
  let place := placeFrom num den 5 estimate
  let found := (List.range 17).findSome? fun i =>
    (candidate? num den low high (mantissa % 2 = 0) place (i + 1)).map fun d => (d, i + 1)
  match found with
  | none => ⟨['0'], 1⟩
  | some (d, count) =>
    let text := Nat.toDigits 10 d
    let place := place + (text.length - count : Nat)
    let trimmed := (text.reverse.dropWhile (· = '0')).reverse
    ⟨if trimmed.isEmpty then ['0'] else trimmed, place⟩

/-- Digits with a point at their place and zeros up to it, without an exponent. -/
def Digits.positional (d : Digits) : List Char :=
  if d.place ≤ 0 then '0' :: '.' :: List.replicate d.place.natAbs '0' ++ d.digits
  else if d.digits.length ≤ d.place.toNat then d.digits ++ List.replicate (d.place.toNat - d.digits.length) '0'
  else d.digits.take d.place.toNat ++ '.' :: d.digits.drop d.place.toNat

/-- The number without an exponent, whole numbers without a point. -/
def positionalText : Binary64 → String
  | .nan => "NaN"
  | .infinite negative => if negative then "-inf" else "inf"
  | .finite negative mantissa exponent =>
    let body := if mantissa = 0 then ['0'] else (shortest mantissa exponent).positional
    String.ofList (if negative then '-' :: body else body)

/-- The number without an exponent, whole numbers with `.0`. -/
def pointedText (x : Binary64) : String :=
  let text := x.positionalText
  match x with
  | .finite _ _ _ => if text.toList.contains '.' then text else text ++ ".0"
  | _ => text

/-- The number with an exponent when its first digit stands more than five places behind the point or more than
fifteen before it; whole numbers with `.0`. -/
def scientificText (x : Binary64) : String :=
  match x with
  | .finite negative mantissa exponent =>
    if mantissa = 0 then x.pointedText
    else
      let d := shortest mantissa exponent
      if -5 < d.place && d.place ≤ 16 then x.pointedText
      else
        let power := d.place - 1
        let fraction := if d.digits.length ≤ 1 then [] else '.' :: d.digits.drop 1
        let digits := Nat.toDigits 10 power.natAbs
        let padded := if digits.length < 2 then '0' :: digits else digits
        let body := d.digits.take 1 ++ fraction ++ 'e' :: (if power < 0 then '-' else '+') :: padded
        String.ofList (if negative then '-' :: body else body)
  | _ => x.positionalText

end Binary64

end Gatehouse
