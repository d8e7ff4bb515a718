import Gatehouse.Time.Instant

/-!
# Instants as text

The RFC 3339 form with the letter Z: date and time of day in UTC, and the part of a second with three, six or nine
digits, as few as hold it, or without one when it is zero. Years that four digits do not hold carry a sign.
-/

namespace Gatehouse

/-- A day of the proleptic Gregorian calendar. -/
structure CivilDate where
  year : Int
  month : Nat
  day : Nat
  deriving DecidableEq

/-- The date of a day, counted from the start of 1970. Years are taken from March on, in eras of 400 years, so that
the leap day is the last of its year. -/
def CivilDate.ofDays (days : Int) : CivilDate :=
  let z := days + 719468
  let era := z.fdiv 146097
  let dayOfEra := (z.fmod 146097).toNat
  let yearOfEra := (dayOfEra - dayOfEra / 1460 + dayOfEra / 36524 - dayOfEra / 146096) / 365
  let dayOfYear := dayOfEra - (365 * yearOfEra + yearOfEra / 4 - yearOfEra / 100)
  let shifted := (5 * dayOfYear + 2) / 153
  let month := if shifted < 10 then shifted + 3 else shifted - 9
  { year := era * 400 + yearOfEra + (if month ≤ 2 then 1 else 0)
    month := month
    day := dayOfYear - (153 * shifted + 2) / 5 + 1 }

/-- A number with at least `width` digits. -/
def padDigits (width : Nat) (n : Nat) : String :=
  let digits := Nat.toDigits 10 n
  String.ofList (List.replicate (width - digits.length) '0' ++ digits)

/-- A year: four digits, or a sign and at least four digits. -/
def CivilDate.yearText (d : CivilDate) : String :=
  if 0 ≤ d.year ∧ d.year ≤ 9999 then padDigits 4 d.year.toNat
  else (if d.year < 0 then "-" else "+") ++ padDigits 4 d.year.natAbs

namespace Instant

/-- The part of a second as text, with its point. -/
def fractionText (nanos : Nat) : String :=
  if nanos = 0 then ""
  else if nanos % 1000000 = 0 then "." ++ padDigits 3 (nanos / 1000000)
  else if nanos % 1000 = 0 then "." ++ padDigits 6 (nanos / 1000)
  else "." ++ padDigits 9 nanos

/-- The instant as RFC 3339 text in UTC. -/
def rfc3339 (t : Instant) : String :=
  let date := CivilDate.ofDays (t.seconds.fdiv 86400)
  let ofDay := (t.seconds.fmod 86400).toNat
  let second := ofDay % 60 + (if t.nanos < 1000000000 then 0 else 1)
  date.yearText ++ "-" ++ padDigits 2 date.month ++ "-" ++ padDigits 2 date.day ++ "T"
    ++ padDigits 2 (ofDay / 3600) ++ ":" ++ padDigits 2 (ofDay / 60 % 60) ++ ":" ++ padDigits 2 second
    ++ fractionText (t.nanos % 1000000000) ++ "Z"

end Instant

end Gatehouse
