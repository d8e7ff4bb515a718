import Mathlib
import Gatehouse.Proofs.Json.Number
import Gatehouse.Proofs.Json.Record

/-!
# Values that are passed over

A string that can be read is passed over up to where it ends (`skipString_of_readStringBytes`), and so are the words and
the numbers. A member of an object that a record does not know is therefore passed over when its value is a scalar
(`Record.readMember_unknown`).
-/

namespace Gatehouse.Json

open Text (Utf8.encode)

/-! ## Strings -/

/-- Four hexadecimal digits are four bytes. -/
theorem length_of_readHex4 {s rest : List UInt8} {n : Nat} (h : readHex4 s = .ok (n, rest)) :
    s.length = rest.length + 4 := by
  unfold readHex4 at h
  split at h
  · next a b c d tail =>
    dsimp only at h
    split at h
    · obtain ⟨-, rfl⟩ := Prod.mk.inj (Except.ok.inj h)
      rfl
    · cases h
  · cases h

/-- The second escape of a pair is an escape with digits. -/
theorem exists_of_readLowSurrogate {s rest : List UInt8} {m : Nat} (h : readLowSurrogate s = .ok (m, rest)) :
    ∃ tail, s = 0x5C :: 0x75 :: tail ∧ readHex4 tail = .ok (m, rest) := by
  unfold readLowSurrogate at h
  split at h
  · cases h
  · next b s =>
    split_ifs at h with hb
    obtain rfl := not_not.1 hb
    split at h
    · cases h
    · next b tail =>
      split_ifs at h with hb
      obtain rfl := not_not.1 hb
      refine ⟨tail, rfl, ?_⟩
      split at h
      · cases h
      · next hhex =>
        split_ifs at h
        obtain ⟨rfl, rfl⟩ := Prod.mk.inj (Except.ok.inj h)
        exact hhex

/-- An escape with digits is passed over in one step. -/
theorem skipString_hex {s rest : List UInt8} {n : Nat} (h : readHex4 s = .ok (n, rest)) (fuel : Nat) :
    skipString (fuel + 1) (0x5C :: 0x75 :: s) = skipString fuel rest := by
  rw [skipString, if_neg (by decide), if_pos rfl, if_pos rfl, h]

/-- An escape with a letter is passed over in one step. -/
theorem skipString_letter {b : UInt8} (h : b ∈ [0x22, 0x5C, 0x2F, 0x62, 0x66, 0x6E, 0x72, 0x74]) (s : List UInt8)
    (fuel : Nat) : skipString (fuel + 1) (0x5C :: b :: s) = skipString fuel s := by
  have hdigits : b ≠ 0x75 := by
    rintro rfl
    exact absurd h (by decide)
  rw [skipString, if_neg (by decide), if_pos rfl, if_neg hdigits, if_pos h]

/-- The digits of an escape that can be read, or of the two of a pair. -/
theorem readUnicodeEscape_cases {s rest : List UInt8} {c : Char} (h : readUnicodeEscape s = .ok (c, rest)) :
    ∃ after n, readHex4 s = .ok (n, after) ∧
      (after = rest ∨ ∃ tail m, after = 0x5C :: 0x75 :: tail ∧ readHex4 tail = .ok (m, rest)) := by
  unfold readUnicodeEscape at h
  split at h
  · cases h
  · next n after hhex =>
    refine ⟨after, n, hhex, ?_⟩
    split_ifs at h with hlow hsingle
    · obtain ⟨-, rfl⟩ := Prod.mk.inj (Except.ok.inj h)
      exact Or.inl rfl
    · split at h
      · cases h
      · next m after' hpair =>
        obtain ⟨-, rfl⟩ := Prod.mk.inj (Except.ok.inj h)
        obtain ⟨tail, htail, hhex'⟩ := exists_of_readLowSurrogate hpair
        exact Or.inr ⟨tail, m, htail, hhex'⟩

/-- An escape that can be read has one of eight letters, or digits. -/
theorem readEscape_cases {s rest : List UInt8} {c : Char} (h : readEscape s = .ok (c, rest)) :
    (∃ b ∈ [0x22, 0x5C, 0x2F, 0x62, 0x66, 0x6E, 0x72, 0x74], s = b :: rest) ∨
      ∃ tail, s = 0x75 :: tail ∧ readUnicodeEscape tail = .ok (c, rest) := by
  unfold readEscape at h
  split at h
  · cases h
  · next b s =>
    by_cases hdigits : b = 0x75
    · subst hdigits
      exact Or.inr ⟨s, rfl, h⟩
    · rw [if_neg hdigits] at h
      split_ifs at h with h1 h2 h3 h4 h5 h6 h7 h8
      all_goals
        obtain ⟨-, rfl⟩ := Prod.mk.inj (Except.ok.inj h)
        exact Or.inl ⟨b, by simp [*], rfl⟩

/-- An escape that can be read is passed over; enough steps are left for what follows. -/
theorem skipString_of_readEscape {s rest : List UInt8} {c : Char} (h : readEscape s = .ok (c, rest)) {fuel : Nat}
    (hf : (0x5C :: s).length < fuel) :
    ∃ fuel', rest.length < fuel' ∧ skipString fuel (0x5C :: s) = skipString fuel' rest := by
  rcases readEscape_cases h with ⟨b, hb, rfl⟩ | ⟨tail, rfl, hdigits⟩
  · simp only [List.length_cons] at hf
    obtain ⟨fuel, rfl⟩ := Nat.exists_eq_add_of_le' (show 1 ≤ fuel by omega)
    exact ⟨fuel, by omega, skipString_letter hb rest fuel⟩
  · obtain ⟨after, n, hhex, hafter⟩ := readUnicodeEscape_cases hdigits
    have hlength := length_of_readHex4 hhex
    simp only [List.length_cons] at hf
    obtain ⟨fuel, rfl⟩ := Nat.exists_eq_add_of_le' (show 1 ≤ fuel by omega)
    rw [skipString_hex hhex]
    rcases hafter with rfl | ⟨tail', m, rfl, hhex'⟩
    · exact ⟨fuel, by omega, rfl⟩
    · -- The two escapes of a pair are read in one step and passed over in two.
      have hlength' := length_of_readHex4 hhex'
      simp only [List.length_cons] at hlength
      obtain ⟨fuel, rfl⟩ := Nat.exists_eq_add_of_le' (show 1 ≤ fuel by omega)
      exact ⟨fuel, by omega, skipString_hex hhex' fuel⟩

/-- A string that can be read is passed over. -/
theorem skipString_of_readStringBytes {steps : Nat} {read bytes s rest : List UInt8}
    (h : readStringBytes steps read s = .ok (bytes, rest)) :
    ∀ fuel, s.length < fuel → skipString fuel s = .ok ((), rest) := by
  induction steps generalizing read s with
  | zero => cases h
  | succ steps ih =>
    intro fuel hf
    cases s with
    | nil => cases h
    | cons b s =>
      rw [readStringBytes] at h
      by_cases hquote : b = 0x22
      · rw [if_pos hquote] at h
        obtain ⟨-, rfl⟩ := Prod.mk.inj (Except.ok.inj h)
        obtain ⟨fuel, rfl⟩ := Nat.exists_eq_add_of_le' (show 1 ≤ fuel by omega)
        rw [skipString.eq_def]
        dsimp only
        rw [if_pos hquote]
      rw [if_neg hquote] at h
      by_cases hescape : b = 0x5C
      · rw [if_pos hescape] at h
        split at h
        · cases h
        · next c after hread =>
          subst hescape
          obtain ⟨fuel', hf', heq⟩ := skipString_of_readEscape hread hf
          rw [heq]
          exact ih h fuel' hf'
      · rw [if_neg hescape] at h
        split_ifs at h with hcontrol
        simp only [List.length_cons] at hf
        obtain ⟨fuel, rfl⟩ := Nat.exists_eq_add_of_le' (show 1 ≤ fuel by omega)
        rw [skipString.eq_def]
        dsimp only
        rw [if_neg hquote, if_neg hescape, if_neg hcontrol]
        exact ih h fuel (by omega)

/-- A string is passed over from what is written for it, after the opening quote. -/
theorem skipString_write (s : String) (rest : List UInt8) :
    ∀ fuel, (Utf8.encode (s.toList.flatMap writeChar) ++ 0x22 :: rest).length < fuel →
      skipString fuel (Utf8.encode (s.toList.flatMap writeChar) ++ 0x22 :: rest) = .ok ((), rest) :=
  skipString_of_readStringBytes (readStringBytes_write s.toList rest _ [] (Nat.lt_succ_self _))

/-! ## Scalars -/

/-- A value is neither a list nor an object, and if it is a floating-point number it is a finite one: there are no others
in JSON. -/
inductive Value.IsScalar : Value → Prop where
  | null : IsScalar .null
  | bool (b : Bool) : IsScalar (.bool b)
  | integer (n : Int) : IsScalar (.integer n)
  | float (negative : Bool) (mantissa : Nat) (exponent : Int) : IsScalar (.float (.finite negative mantissa exponent))
  | string (s : String) : IsScalar (.string s)

/-- What is written for a scalar begins with a byte that is neither a space nor a bracket, and is passed over up to where
it ends. -/
theorem skipScalar_write {v : Value} (h : v.IsScalar) {rest : List UInt8} (hrest : EndsNumber rest) :
    ∃ b bs, Utf8.encode v.write = b :: bs ∧ (¬isSpace b = true ∧ b ≠ 0x5B ∧ b ≠ 0x7B) ∧
      skipScalar b (bs ++ rest) = .ok ((), rest) := by
  have number {s : List Char} (hs : IsNumber s) : ∃ b bs, Utf8.encode s = b :: bs ∧
      (¬isSpace b = true ∧ b ≠ 0x5B ∧ b ≠ 0x7B) ∧ skipScalar b (bs ++ rest) = .ok ((), rest) := by
    obtain ⟨b, bs, hb, hfirst, hskip⟩ := skipScalar_of_isNumber hs
    refine ⟨b, bs, hb, ?_, hskip rest hrest⟩
    rcases hfirst with rfl | hdigit
    · decide
    · exact ⟨not_isSpace_of_isDigit hdigit, ne_of_isDigit hdigit rfl, ne_of_isDigit hdigit rfl⟩
  cases h with
  | null => exact ⟨0x6E, _, rfl, by decide, rfl⟩
  | bool b =>
    cases b with
    | false => exact ⟨0x66, _, rfl, by decide, rfl⟩
    | true => exact ⟨0x74, _, rfl, by decide, rfl⟩
  | integer n => exact number (isNumber_writeInteger n)
  | float negative mantissa exponent => exact number (Binary64.isNumber_scientificText negative mantissa exponent)
  | string s =>
    have hwritten := encode_writeString s []
    rw [List.append_nil] at hwritten
    refine ⟨0x22, _, hwritten, by decide, ?_⟩
    rw [List.append_assoc]
    exact skipString_write s rest _ (Nat.lt_succ_self _)

/-- A scalar is passed over from what is written for it. -/
theorem skipValue_write {v : Value} (h : v.IsScalar) {rest : List UInt8} (hrest : EndsNumber rest) :
    skipValue (Utf8.encode v.write ++ rest) = .ok ((), rest) := by
  obtain ⟨b, bs, hb, ⟨hspace, hlist, hobject⟩, hskip⟩ := skipScalar_write h hrest
  rw [hb, List.cons_append, skipValue]
  simp [skipOpen, skipSpaces_cons hspace, hlist, hobject, hskip]

/-- A member that a record does not know is passed over when its value is a scalar. -/
theorem Record.readMember_unknown {σ α : Type} {record : Record σ α} {name : String}
    (hname : record.fields.find? (·.name = name) = none) {v : Value} (h : v.IsScalar) (d : σ) {rest : List UInt8}
    (hrest : AfterValue rest) : record.readMember d name (0x3A :: (Utf8.encode v.write ++ rest)) = .ok (d, rest) := by
  have hcolon : readColon (0x3A :: (Utf8.encode v.write ++ rest)) = .ok ((), Utf8.encode v.write ++ rest) := rfl
  simp [readMember, hname, hcolon, skipValue_write h hrest.endsNumber]

end Gatehouse.Json
