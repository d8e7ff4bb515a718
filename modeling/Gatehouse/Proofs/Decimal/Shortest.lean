import Mathlib
import Gatehouse.Decimal.Binary64

/-!
# The fewest digits of a number

The digits that are written for a number other than zero are decimal digits, and the first of them is no zero
(`Binary64.digits_shortest`).
-/

namespace Gatehouse

namespace Decimal

/-- A number other than zero does not begin with a zero. -/
theorem head?_toDigits_ne_zero {n : Nat} (h : 0 < n) : (Nat.toDigits 10 n).head? ≠ some '0' := by
  induction n using Nat.strongRecOn with
  | _ n ih =>
    rcases Nat.lt_or_ge n 10 with hn | hn
    · rw [Nat.toDigits_of_lt_base hn]
      have all : ∀ k < 10, 0 < k → k.digitChar ≠ '0' := by decide
      simpa using all n hn h
    · rw [Nat.toDigits_of_base_le (by decide) hn, List.head?_append_of_ne_nil _ Nat.toDigits_ne_nil]
      exact ih (n / 10) (by omega) (by omega)

/-- One decimal digit at least, and only such. -/
structure IsDigits (ds : List Char) : Prop where
  isDigit : ∀ c ∈ ds, c.isDigit = true
  ne_nil : ds ≠ []

/-- Decimal digits, of which the first is no zero. -/
structure IsLeading (ds : List Char) : Prop extends IsDigits ds where
  head?_ne : ds.head? ≠ some '0'

/-- The digits of a number are decimal digits. -/
theorem isDigits_toDigits (n : Nat) : IsDigits (Nat.toDigits 10 n) :=
  ⟨fun _ hc => Nat.isDigit_of_mem_toDigits (by decide) (by decide) hc, Nat.toDigits_ne_nil⟩

/-- The digits of a positive number begin with no zero. -/
theorem isLeading_toDigits {n : Nat} (h : 0 < n) : IsLeading (Nat.toDigits 10 n) :=
  ⟨isDigits_toDigits n, head?_toDigits_ne_zero h⟩

/-- Digits are left behind a place inside of them. -/
theorem IsDigits.drop {ds : List Char} (h : IsDigits ds) {n : Nat} (hn : n < ds.length) : IsDigits (ds.drop n) := by
  refine ⟨fun c hc => h.isDigit c (List.mem_of_mem_drop hc), ?_⟩
  intro hnil
  exact Nat.not_le.2 hn (List.drop_eq_nil_iff.1 hnil)

/-- The first few of some digits that begin with no zero do not begin with one. -/
theorem IsLeading.take {ds : List Char} (h : IsLeading ds) {n : Nat} (hn : 0 < n) : IsLeading (ds.take n) := by
  refine ⟨⟨fun c hc => h.isDigit c (List.mem_of_mem_take hc), ?_⟩, ?_⟩
  · intro hnil
    rcases List.take_eq_nil_iff.1 hnil with hzero | hnone
    · exact hn.ne' hzero
    · exact h.ne_nil hnone
  · rw [List.head?_take, if_neg hn.ne']
    exact h.head?_ne

/-- Digits that begin with no zero begin with none when the zeros at their end are left out. -/
theorem IsLeading.trimmed {ds : List Char} (h : IsLeading ds) : IsLeading (ds.reverse.dropWhile (· = '0')).reverse := by
  change IsLeading (ds.rdropWhile (· = '0'))
  have hne : ds.rdropWhile (· = '0') ≠ [] := by
    intro hnil
    have hzeros := List.rdropWhile_eq_nil_iff.1 hnil
    obtain ⟨c, rest, rfl⟩ := List.exists_cons_of_ne_nil h.ne_nil
    exact h.head?_ne (congrArg some (of_decide_eq_true (hzeros c List.mem_cons_self)))
  have hfront : ds.rdropWhile (· = '0') <+: ds := List.rdropWhile_prefix _ _
  have hhead : (ds.rdropWhile (· = '0')).head? = ds.head? := by
    obtain ⟨zeros, hzeros⟩ := hfront
    rw [← congrArg List.head? hzeros, List.head?_append_of_ne_nil _ hne]
  exact ⟨⟨fun c hc => h.isDigit c (hfront.subset hc), hne⟩, hhead ▸ h.head?_ne⟩

end Decimal

namespace Binary64

open Decimal (IsLeading isLeading_toDigits)

/-- The denominator of a power is positive. -/
theorem ratio_snd_pos (m : Nat) {base : Nat} (hbase : 0 < base) (e : Int) : 0 < (ratio m base e).2 := by
  unfold ratio
  split_ifs
  · exact Nat.one_pos
  · exact Nat.pow_pos hbase

/-- A decimal above a positive bound is positive. -/
theorem candidate?_pos {num den low high : Nat} {closed : Bool} {place : Int} {count d : Nat} (hlow : 0 < low)
    (h : candidate? num den low high closed place count = some d) : 0 < d := by
  have hbottom : 0 < low * (ratio 1 10 (place - count)).2 :=
    Nat.mul_pos hlow (ratio_snd_pos 1 (by decide) (place - count))
  unfold candidate? at h
  dsimp only at h
  generalize num * (ratio 1 10 (place - count)).2 / (den * (ratio 1 10 (place - count)).1) = below at h
  rcases Nat.eq_zero_or_pos below with rfl | hbelow
  · -- Zero lies below the bound, so that only the decimal above it can be chosen.
    have hnotLe : ¬low * (ratio 1 10 (place - count)).2 ≤ 0 := Nat.not_le.2 hbottom
    simp only [Nat.mul_zero, Nat.zero_mul, hnotLe, Nat.not_lt_zero, decide_false, Bool.false_and, ite_self] at h
    split at h
    · cases h
    · next hinside _ => cases hinside
    · obtain rfl := Option.some.inj h
      exact Nat.one_pos
    · next hinside _ => cases hinside
  · split at h
    · cases h
    · obtain rfl := Option.some.inj h
      exact hbelow
    · obtain rfl := Option.some.inj h
      exact Nat.succ_pos below
    · split_ifs at h
      all_goals
        obtain rfl := Option.some.inj h
        omega

/-- Half a gap below a positive number is positive. -/
theorem low_pos {mantissa : Nat} (h : 0 < mantissa) (exponent : Int) :
    0 < 4 * (ratio mantissa 2 exponent).1 - 2 * (ratio 1 2 exponent).1 := by
  have hgap : (ratio 1 2 exponent).1 ≤ (ratio mantissa 2 exponent).1 := by
    unfold ratio
    split_ifs
    · exact Nat.mul_le_mul_right _ h
    · exact h
  have hpos : 0 < (ratio 1 2 exponent).1 := by
    unfold ratio
    split_ifs
    · exact Nat.mul_pos Nat.one_pos (Nat.pow_pos (by decide))
    · exact Nat.one_pos
  omega

/-- The digits that are written for a number other than zero begin with no zero, but for the number that none fits. -/
theorem digits_shortest {mantissa : Nat} (h : 0 < mantissa) (exponent : Int) :
    shortest mantissa exponent = ⟨['0'], 1⟩ ∨ IsLeading (shortest mantissa exponent).digits := by
  have hhalf := low_pos h exponent
  unfold shortest
  dsimp only
  split
  · exact Or.inl rfl
  · next d count hfound =>
    right
    obtain ⟨i, -, hcandidate⟩ := List.exists_of_findSome?_eq_some hfound
    obtain ⟨d', hd', heq⟩ := Option.map_eq_some_iff.1 hcandidate
    obtain ⟨rfl, -⟩ := Prod.mk.inj heq
    have hpos : 0 < d' := by
      refine candidate?_pos ?_ hd'
      split_ifs
      · omega
      · exact hhalf
    have htrimmed := (isLeading_toDigits hpos).trimmed
    rw [if_neg (by rw [List.isEmpty_iff]; exact htrimmed.ne_nil)]
    exact htrimmed

end Binary64

end Gatehouse
