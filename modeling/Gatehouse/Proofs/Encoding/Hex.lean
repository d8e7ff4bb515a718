import Mathlib
import Gatehouse.Uuid

/-!
# Hexadecimal digits and identifiers, written and read

Bytes are read back from their digits (`Hex.decode?_flatMap_ofByte`) and an identifier from its hyphenated form
(`Uuid.ofString?_toString`), so that no two identifiers have one form (`Uuid.toString_injective`).
-/

namespace Gatehouse

/-! ## Bytes and their numbers -/

/-- A number that fits in a byte is the number of that byte. -/
theorem toNat_toUInt8 {k : Nat} (h : k < 256) : k.toUInt8.toNat = k := Nat.mod_eq_of_lt h

/-- A byte is made of the number that it is. -/
theorem toUInt8_of_eq {k : Nat} {a : UInt8} (h : k = a.toNat) : k.toUInt8 = a := by
  rw [h]
  exact UInt8.ofNat_toNat

/-! ## Digits -/

namespace Encoding.Hex

/-- Each digit is read back from its character. -/
theorem value?_digit : ∀ n < 16, value? (digit n) = some n := by decide

/-- Bytes are read back from their digits. -/
theorem decode?_flatMap_ofByte (bytes : List UInt8) : decode? (bytes.flatMap ofByte) = some bytes := by
  induction bytes with
  | nil => rfl
  | cons a bytes ih =>
    have ha := a.toNat_lt
    simp only [List.flatMap_cons, ofByte, List.cons_append, List.nil_append, decode?,
      value?_digit (a.toNat / 16) (by omega), value?_digit (a.toNat % 16) (by omega), ih]
    simp only [Option.bind_eq_bind, Option.bind_some]
    rw [toUInt8_of_eq (a := a) (by omega)]

end Encoding.Hex

/-! ## Identifiers -/

namespace Uuid

/-- Sixteen bytes make the identifier that they are the bytes of. -/
theorem ofBytes?_toList (u : Uuid) : ofBytes? u.bytes.toList = some u := by
  obtain ⟨⟨⟨bytes⟩, h⟩⟩ := u
  exact dif_pos h

/-- What stands between the hyphens of the form of an identifier are its digits. -/
theorem ofChars?_chars (u : Uuid) : ofChars? u.chars = ofDigits? (u.bytes.toList.flatMap Encoding.Hex.ofByte) := by
  obtain ⟨⟨⟨bytes⟩, h⟩⟩ := u
  change bytes.length = 16 at h
  match bytes, h with
  | [_, _, _, _, _, _, _, _, _, _, _, _, _, _, _, _], _ => rfl

/-- An identifier is read back from its hyphenated form. -/
theorem ofString?_toString (u : Uuid) : ofString? u.toString = some u := by
  rw [ofString?, toString, String.toList_ofList, ofChars?_chars, ofDigits?, Encoding.Hex.decode?_flatMap_ofByte,
    Option.bind_some, ofBytes?_toList]

/-- No two identifiers have one hyphenated form. -/
theorem toString_injective : Function.Injective toString := by
  intro u v h
  have hu := ofString?_toString u
  rw [h, ofString?_toString v] at hu
  exact (Option.some.inj hu).symm

/-- No identifier is written as the empty text. -/
theorem toString_ne_empty (u : Uuid) : u.toString ≠ "" := by
  intro h
  have hread := ofString?_toString u
  rw [h] at hread
  have hnone : ofString? "" = none := rfl
  rw [hnone] at hread
  cases hread

end Uuid

end Gatehouse
