/-!
# Instants, durations and clocks

A point on the clock is a count of seconds since 1970 and a part of a second in nanoseconds. A part of one second or
more marks a point inside a leap second: the seconds still count the second before it. Instants span the years
-262143 to 262142, durations the milliseconds that fit in 64 bits; both bounds are in the types, so that arithmetic
can only leave the range by answering `none`.
-/

namespace Gatehouse

/-- The first second that has an instant: the start of the year -262143. -/
def Instant.earliest : Int := -8334601228800

/-- The last second that has an instant: the end of the year 262142. -/
def Instant.latest : Int := 8210266876799

/-- A point on the clock. -/
structure Instant where
  /-- Whole seconds since the start of 1970, rounded down. -/
  seconds : Int
  /-- The part of a second in nanoseconds; from one second on, the point lies in a leap second. -/
  nanos : Nat
  earliest_le : Instant.earliest ≤ seconds := by decide
  le_latest : seconds ≤ Instant.latest := by decide
  nanos_lt : nanos < 2000000000 := by decide
  deriving DecidableEq

/-- The longest duration in nanoseconds: the largest 64-bit count of milliseconds. -/
def Duration.limit : Int := 9223372036854775807 * 1000000

/-- A span of time, forward or back. -/
structure Duration where
  nanoseconds : Int
  neg_limit_le : -Duration.limit ≤ nanoseconds := by decide
  le_limit : nanoseconds ≤ Duration.limit := by decide
  deriving DecidableEq

namespace Duration

/-- The duration of so many milliseconds, when there is one. -/
def ofMilliseconds? (n : Int) : Option Duration :=
  if h : -limit ≤ n * 1000000 ∧ n * 1000000 ≤ limit then some ⟨n * 1000000, h.1, h.2⟩ else none

/-- The duration of so many seconds, when there is one. -/
def ofSeconds? (n : Int) : Option Duration :=
  if h : -limit ≤ n * 1000000000 ∧ n * 1000000000 ≤ limit then some ⟨n * 1000000000, h.1, h.2⟩ else none

end Duration

namespace Instant

/-- The start of 1970. -/
def epoch : Instant := ⟨0, 0, by decide, by decide, by decide⟩

instance : Inhabited Instant := ⟨epoch⟩

/-- The instant with these parts, when there is one. -/
def ofParts? (seconds : Int) (nanos : Nat) : Option Instant :=
  if h : earliest ≤ seconds ∧ seconds ≤ latest ∧ nanos < 2000000000 then some ⟨seconds, nanos, h.1, h.2.1, h.2.2⟩
  else none

/-- The instant at the start of a second, when there is one. -/
def ofSeconds? (seconds : Int) : Option Instant := ofParts? seconds 0

/-- Earlier: by the second, then by its part. -/
protected def lt (a b : Instant) : Prop := a.seconds < b.seconds ∨ (a.seconds = b.seconds ∧ a.nanos < b.nanos)

instance : LT Instant := ⟨Instant.lt⟩

instance : LE Instant := ⟨fun a b => ¬ b < a⟩

instance (a b : Instant) : Decidable (a < b) :=
  inferInstanceAs (Decidable (a.seconds < b.seconds ∨ (a.seconds = b.seconds ∧ a.nanos < b.nanos)))

instance (a b : Instant) : Decidable (a ≤ b) := inferInstanceAs (Decidable (¬ b < a))

/-- The start of the second that an instant lies in. -/
def floor (t : Instant) : Instant := { t with nanos := 0, nanos_lt := by decide }

/-- The instant as one count of nanoseconds. -/
def nanoseconds (t : Instant) : Int := t.seconds * 1000000000 + t.nanos

/-- The instant a duration later, when it is in range. -/
def add? (t : Instant) (d : Duration) : Option Instant :=
  let sum := t.nanoseconds + d.nanoseconds
  ofParts? (sum.fdiv 1000000000) (sum.fmod 1000000000).toNat

/-- The nanoseconds from one instant to another. -/
def nanosecondsSince (t earlier : Instant) : Int := t.nanoseconds - earlier.nanoseconds

end Instant

/-- A clock, by the instants that it will show when it is read, one time after the other. -/
structure Clock where
  reading : Nat → Instant

/-- A clock that stands still. -/
instance : Coe Instant Clock := ⟨fun now => ⟨fun _ => now⟩⟩

/-- The clock after it was read once. -/
def Clock.next (clock : Clock) : Clock := ⟨fun n => clock.reading (n + 1)⟩

end Gatehouse
