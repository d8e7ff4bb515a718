import Mathlib
import Gatehouse.Time.Instant

/-!
# The order of instants

Instants are in a linear order: by their seconds, then by the part of a second. The start of a second is the latest
whole second that is not after an instant (`floor_le`, `floor_le_iff`), a whole number of seconds after it is a whole
second again (`floor_of_add?`), and one second or more after it is after the instant (`lt_of_add?`).
-/

namespace Gatehouse.Instant

/-- Earlier, spelled out. -/
theorem lt_def {a b : Instant} : a < b ↔ a.seconds < b.seconds ∨ (a.seconds = b.seconds ∧ a.nanos < b.nanos) := Iff.rfl

/-- Not after, spelled out. -/
theorem le_def {a b : Instant} : a ≤ b ↔ a.seconds < b.seconds ∨ (a.seconds = b.seconds ∧ a.nanos ≤ b.nanos) := by
  change ¬(b.seconds < a.seconds ∨ (b.seconds = a.seconds ∧ b.nanos < a.nanos)) ↔ _
  omega

/-- Instants are equal when their parts are. -/
theorem eq_of_parts {a b : Instant} (hs : a.seconds = b.seconds) (hn : a.nanos = b.nanos) : a = b := by
  cases a
  cases b
  subst hs hn
  rfl

instance : LinearOrder Instant where
  le_refl a := by
    rw [le_def]
    omega
  le_trans a b c hab hbc := by
    rw [le_def] at *
    omega
  lt_iff_le_not_ge a b := by
    rw [lt_def, le_def, le_def]
    omega
  le_antisymm a b hab hba := by
    rw [le_def] at hab hba
    exact eq_of_parts (by omega) (by omega)
  le_total a b := by
    rw [le_def, le_def]
    omega
  toDecidableLE := inferInstance

@[simp] theorem floor_seconds (t : Instant) : t.floor.seconds = t.seconds := rfl

@[simp] theorem floor_nanos (t : Instant) : t.floor.nanos = 0 := rfl

@[simp] theorem floor_floor (t : Instant) : t.floor.floor = t.floor := rfl

/-- The start of a second is not after any instant in it. -/
theorem floor_le (t : Instant) : t.floor ≤ t := by
  rw [le_def]
  exact Or.inr ⟨rfl, Nat.zero_le _⟩

/-- The epoch is not after an instant exactly when the seconds of the instant are not negative. -/
theorem epoch_le_iff {t : Instant} : epoch ≤ t ↔ 0 ≤ t.seconds := by
  rw [le_def]
  change 0 < t.seconds ∨ (0 = t.seconds ∧ 0 ≤ t.nanos) ↔ _
  omega

/-! ## Durations later -/

/-- The instant a duration later has that many nanoseconds more, and is not in a leap second. -/
theorem add?_eq_some_iff {t t' : Instant} {d : Duration} :
    t.add? d = some t' ↔ t'.nanoseconds = t.nanoseconds + d.nanoseconds ∧ t'.nanos < 1000000000 := by
  simp only [add?, ofParts?, Option.dite_none_right_eq_some, Option.some.injEq]
  generalize t.nanoseconds + d.nanoseconds = sum
  rw [Int.fdiv_eq_ediv_of_nonneg _ (by decide), Int.fmod_eq_emod_of_nonneg _ (by decide)]
  constructor
  · rintro ⟨h, rfl⟩
    simp only [nanoseconds]
    omega
  · rintro ⟨hsum, hnanos⟩
    simp only [nanoseconds] at hsum
    have h1 := t'.earliest_le
    have h2 := t'.le_latest
    have hs : sum / 1000000000 = t'.seconds := by omega
    have hn : (sum % 1000000000).toNat = t'.nanos := by omega
    rw [hs, hn]
    exact ⟨⟨h1, h2, by omega⟩, rfl⟩

/-- There is an instant a duration later exactly when its second is one of those that have instants. -/
theorem isSome_add?_iff {t : Instant} {d : Duration} :
    (t.add? d).isSome = true ↔
      earliest ≤ (t.nanoseconds + d.nanoseconds) / 1000000000 ∧
        (t.nanoseconds + d.nanoseconds) / 1000000000 ≤ latest := by
  simp only [add?, ofParts?, Option.isSome_dite]
  generalize t.nanoseconds + d.nanoseconds = sum
  rw [Int.fdiv_eq_ediv_of_nonneg _ (by decide), Int.fmod_eq_emod_of_nonneg _ (by decide)]
  have hnanos : (sum % 1000000000).toNat < 2000000000 := by omega
  exact ⟨fun h => ⟨h.1, h.2.1⟩, fun h => ⟨h.1, h.2, hnanos⟩⟩

/-- A whole number of seconds after a whole second is a whole second. -/
theorem floor_of_add? {t t' : Instant} {d : Duration} (h : t.floor.add? d = some t')
    (hd : d.nanoseconds % 1000000000 = 0) : t'.floor = t' := by
  obtain ⟨hsum, hnanos⟩ := add?_eq_some_iff.1 h
  simp only [nanoseconds, floor_seconds, floor_nanos] at hsum
  exact eq_of_parts rfl (by rw [floor_nanos]; omega)

/-- One second or more after the start of its second is after an instant. -/
theorem lt_of_add? {t t' : Instant} {d : Duration} (h : t.floor.add? d = some t')
    (hd : 1000000000 ≤ d.nanoseconds) : t < t' := by
  obtain ⟨hsum, hnanos⟩ := add?_eq_some_iff.1 h
  simp only [nanoseconds, floor_seconds, floor_nanos] at hsum
  rw [lt_def]
  exact Or.inl (by omega)

end Gatehouse.Instant
