import Mathlib
import Gatehouse.Proofs.Text.Utf8

/-!
# The order of texts

Texts stand in the order of their characters, which is the order of their bytes as well (`ofString_le_iff`): of two
characters the smaller one has the smaller byte at the first place where their bytes differ, and neither has bytes that
begin with those of the other.
-/

namespace Gatehouse.Text.Utf8

/-- Of two lists of bytes the first to have the smaller byte comes first. -/
theorem toUInt8_cons_lt {i j : Nat} {s t : List UInt8} (hj : j < 256) (hle : i ≤ j) (h : i = j → s < t) :
    i.toUInt8 :: s < j.toUInt8 :: t := by
  rw [List.cons_lt_cons_iff]
  rcases Nat.lt_or_eq_of_le hle with hlt | rfl
  · left
    rw [UInt8.lt_iff_toNat_lt, toNat_toUInt8 (hlt.trans hj), toNat_toUInt8 hj]
    exact hlt
  · exact Or.inr ⟨rfl, h rfl⟩

/-- The bytes of a character come before those of a greater one, whatever follows either. -/
theorem encodeChar_append_lt {c d : Char} (h : c < d) (s t : List UInt8) : encodeChar c ++ s < encodeChar d ++ t := by
  have hcd : c.toNat < d.toNat := UInt32.lt_iff_toNat_lt.1 h
  have hd := toNat_valid d
  -- At the first place where the bytes may differ they do, or the bytes before decide.
  have first {i j : Nat} (hj : j < 256) (hlt : i < j) (s t : List UInt8) : i.toUInt8 :: s < j.toUInt8 :: t :=
    toUInt8_cons_lt hj hlt.le fun he => absurd he hlt.ne
  unfold encodeChar
  dsimp only
  generalize c.toNat = m at *
  generalize d.toNat = n at *
  -- A greater character has no fewer bytes, which leaves ten cases by the numbers of bytes.
  split_ifs
  all_goals try omega
  all_goals simp only [List.cons_append, List.nil_append]
  · exact first (by omega) (by omega) s t
  · exact first (by omega) (by omega) s _
  · exact first (by omega) (by omega) s _
  · exact first (by omega) (by omega) s _
  · exact toUInt8_cons_lt (by omega) (by omega) fun _ => first (by omega) (by omega) s t
  · exact first (by omega) (by omega) _ _
  · exact first (by omega) (by omega) _ _
  · exact toUInt8_cons_lt (by omega) (by omega) fun _ => toUInt8_cons_lt (by omega) (by omega) fun _ =>
      first (by omega) (by omega) s t
  · exact first (by omega) (by omega) _ _
  · exact toUInt8_cons_lt (by omega) (by omega) fun _ => toUInt8_cons_lt (by omega) (by omega) fun _ =>
      toUInt8_cons_lt (by omega) (by omega) fun _ => first (by omega) (by omega) s t

/-- The bytes of a text come before those of a greater one. -/
theorem encode_lt_of_lt {s t : List Char} (h : s < t) : encode s < encode t := by
  induction s generalizing t with
  | nil =>
    cases t with
    | nil => exact absurd h (lt_irrefl _)
    | cons d t =>
      obtain ⟨b, tail, hb⟩ := List.exists_cons_of_ne_nil (encodeChar_ne_nil d)
      rw [encode_nil, encode_cons, hb, List.cons_append]
      exact List.nil_lt_cons b _
  | cons c s ih =>
    cases t with
    | nil => exact absurd h (List.not_lt_nil _)
    | cons d t =>
      rw [encode_cons, encode_cons]
      rcases List.cons_lt_cons_iff.1 h with hlt | ⟨rfl, hlt⟩
      · exact encodeChar_append_lt hlt _ _
      · exact List.append_left_lt (ih hlt)

/-- Texts are in the order of their bytes. -/
theorem ofString_lt_iff {s t : String} : ofString s < ofString t ↔ s < t := by
  constructor
  · intro h
    rcases lt_trichotomy s t with hlt | rfl | hgt
    · exact hlt
    · exact absurd h (List.lt_irrefl _)
    · exact absurd h (List.lt_asymm (encode_lt_of_lt (String.lt_iff_toList_lt.1 hgt)))
  · intro h
    exact encode_lt_of_lt (String.lt_iff_toList_lt.1 h)

@[inherit_doc ofString_lt_iff]
theorem ofString_le_iff {s t : String} : ofString s ≤ ofString t ↔ s ≤ t := by
  rw [← not_lt (a := t), ← ofString_lt_iff]
  rfl

end Gatehouse.Text.Utf8
