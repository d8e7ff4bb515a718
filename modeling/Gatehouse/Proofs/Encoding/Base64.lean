import Mathlib
import Gatehouse.Encoding.Base64
import Gatehouse.Proofs.Encoding.Hex

/-!
# Base64 texts and their bytes

Writing and reading base64 are inverse to each other: every byte list is read back from its text (`decode?_encode`), and
a text that is read is the text of what it is read as (`eq_encode_of_decode?`), so that no two texts stand for the same
bytes. Both hold of any alphabet whose 64 characters are told apart (`Lawful`).
-/

namespace Gatehouse.Encoding.Base64

/-- The characters of the alphabet are told apart: each digit is read back from its character. -/
def Lawful (alphabet : Base64) : Prop := ∀ n < 64, alphabet.value? (alphabet.digit n) = some n

theorem urlSafe_lawful : Lawful urlSafe := by
  unfold Lawful
  decide

theorem standard_lawful : Lawful standard := by
  unfold Lawful
  decide

/-! ## Digits -/

/-- A character that stands for a digit is the character of that digit. -/
theorem digit_of_value? {alphabet : Base64} {c : Char} {n : Nat} (h : alphabet.value? c = some n) :
    alphabet.digit n = c ∧ n < 64 := by
  have back (k : Nat) (hk : k = c.toNat) : Char.ofNat k = c := by rw [hk, Char.ofNat_toNat]
  unfold value? at h
  split at h
  · next hc =>
    obtain ⟨h1, h2⟩ : 65 ≤ c.toNat ∧ c.toNat ≤ 90 := hc
    obtain rfl := Option.some.inj h
    have e : 'A'.toNat = 65 := rfl
    refine ⟨?_, by omega⟩
    rw [digit, if_pos (by omega)]
    exact back _ (by omega)
  split at h
  · next hc =>
    obtain ⟨h1, h2⟩ : 97 ≤ c.toNat ∧ c.toNat ≤ 122 := hc
    obtain rfl := Option.some.inj h
    have e : 'a'.toNat = 97 := rfl
    refine ⟨?_, by omega⟩
    rw [digit, if_neg (by omega), if_pos (by omega)]
    exact back _ (by omega)
  split at h
  · next hc =>
    obtain ⟨h1, h2⟩ : 48 ≤ c.toNat ∧ c.toNat ≤ 57 := hc
    obtain rfl := Option.some.inj h
    have e : '0'.toNat = 48 := rfl
    refine ⟨?_, by omega⟩
    rw [digit, if_neg (by omega), if_neg (by omega), if_pos (by omega)]
    exact back _ (by omega)
  split at h
  · next hc =>
    obtain rfl := Option.some.inj h
    exact ⟨hc.symm, by decide⟩
  split at h
  · next hc =>
    obtain rfl := Option.some.inj h
    exact ⟨hc.symm, by decide⟩
  · cases h

/-! ## Texts -/

/-- Every byte list is read back from its text. -/
theorem decode?_encode {alphabet : Base64} (h : Lawful alphabet) (bytes : List UInt8) :
    alphabet.decode? (alphabet.encode bytes) = some bytes := by
  fun_induction encode alphabet bytes with
  | case1 => rfl
  | case2 a =>
    have ha := a.toNat_lt
    simp only [decode?, h (a.toNat / 4) (by omega), h (a.toNat % 4 * 16) (by omega)]
    simp only [Option.bind_eq_bind, Option.bind_some, Nat.mul_mod_left, if_true]
    rw [toUInt8_of_eq (a := a) (by omega)]
  | case3 a b =>
    have ha := a.toNat_lt
    have hb := b.toNat_lt
    simp only [decode?, h (a.toNat / 4) (by omega), h (a.toNat % 4 * 16 + b.toNat / 16) (by omega),
      h (b.toNat % 16 * 4) (by omega)]
    simp only [Option.bind_eq_bind, Option.bind_some, Nat.mul_mod_left, if_true]
    rw [toUInt8_of_eq (a := a) (by omega), toUInt8_of_eq (a := b) (by omega)]
  | case4 a b c rest ih =>
    have ha := a.toNat_lt
    have hb := b.toNat_lt
    have hc := c.toNat_lt
    simp only [decode?, h (a.toNat / 4) (by omega), h (a.toNat % 4 * 16 + b.toNat / 16) (by omega),
      h (b.toNat % 16 * 4 + c.toNat / 64) (by omega), h (c.toNat % 64) (by omega), ih]
    simp only [Option.bind_eq_bind, Option.bind_some]
    rw [toUInt8_of_eq (a := a) (by omega), toUInt8_of_eq (a := b) (by omega), toUInt8_of_eq (a := c) (by omega)]

/-- A text that is read is the text of what it is read as. -/
theorem eq_encode_of_decode? {alphabet : Base64} {s : List Char} {bytes : List UInt8}
    (h : alphabet.decode? s = some bytes) : s = alphabet.encode bytes := by
  fun_induction decode? alphabet s generalizing bytes with
  | case1 =>
    obtain rfl := Option.some.inj h
    rfl
  | case2 => cases h
  | case3 c0 c1 =>
    simp only [Option.bind_eq_bind, Option.bind_eq_some_iff] at h
    obtain ⟨v0, h0, v1, h1, h⟩ := h
    obtain ⟨rfl, l0⟩ := digit_of_value? h0
    obtain ⟨rfl, l1⟩ := digit_of_value? h1
    split at h
    · obtain rfl := Option.some.inj h
      simp only [encode, toNat_toUInt8 (show v0 * 4 + v1 / 16 < 256 by omega)]
      rw [show (v0 * 4 + v1 / 16) / 4 = v0 by omega, show (v0 * 4 + v1 / 16) % 4 * 16 = v1 by omega]
    · cases h
  | case4 c0 c1 c2 =>
    simp only [Option.bind_eq_bind, Option.bind_eq_some_iff] at h
    obtain ⟨v0, h0, v1, h1, v2, h2, h⟩ := h
    obtain ⟨rfl, l0⟩ := digit_of_value? h0
    obtain ⟨rfl, l1⟩ := digit_of_value? h1
    obtain ⟨rfl, l2⟩ := digit_of_value? h2
    split at h
    · obtain rfl := Option.some.inj h
      simp only [encode, toNat_toUInt8 (show v0 * 4 + v1 / 16 < 256 by omega),
        toNat_toUInt8 (show v1 % 16 * 16 + v2 / 4 < 256 by omega)]
      rw [show (v0 * 4 + v1 / 16) / 4 = v0 by omega,
        show (v0 * 4 + v1 / 16) % 4 * 16 + (v1 % 16 * 16 + v2 / 4) / 16 = v1 by omega,
        show (v1 % 16 * 16 + v2 / 4) % 16 * 4 = v2 by omega]
    · cases h
  | case5 c0 c1 c2 c3 rest ih =>
    simp only [Option.bind_eq_bind, Option.bind_eq_some_iff] at h
    obtain ⟨v0, h0, v1, h1, v2, h2, v3, h3, bs, hbs, h⟩ := h
    obtain ⟨rfl, l0⟩ := digit_of_value? h0
    obtain ⟨rfl, l1⟩ := digit_of_value? h1
    obtain ⟨rfl, l2⟩ := digit_of_value? h2
    obtain ⟨rfl, l3⟩ := digit_of_value? h3
    obtain rfl := Option.some.inj h
    rw [ih hbs]
    simp only [encode, toNat_toUInt8 (show v0 * 4 + v1 / 16 < 256 by omega),
      toNat_toUInt8 (show v1 % 16 * 16 + v2 / 4 < 256 by omega), toNat_toUInt8 (show v2 % 4 * 64 + v3 < 256 by omega)]
    rw [show (v0 * 4 + v1 / 16) / 4 = v0 by omega,
      show (v0 * 4 + v1 / 16) % 4 * 16 + (v1 % 16 * 16 + v2 / 4) / 16 = v1 by omega,
      show (v1 % 16 * 16 + v2 / 4) % 16 * 4 + (v2 % 4 * 64 + v3) / 64 = v2 by omega,
      show (v2 % 4 * 64 + v3) % 64 = v3 by omega]

/-- Reading a text and writing bytes are the two directions of one correspondence. -/
theorem decode?_eq_some_iff {alphabet : Base64} (h : Lawful alphabet) {s : List Char} {bytes : List UInt8} :
    alphabet.decode? s = some bytes ↔ s = alphabet.encode bytes :=
  ⟨eq_encode_of_decode?, fun e => e ▸ decode?_encode h bytes⟩

/-- Every character of a text is the character of a digit. -/
theorem exists_digit_of_mem_encode {alphabet : Base64} {c : Char} {bytes : List UInt8}
    (h : c ∈ alphabet.encode bytes) : ∃ n < 64, c = alphabet.digit n := by
  fun_induction encode alphabet bytes with
  | case1 => cases h
  | case2 a =>
    have ha := a.toNat_lt
    simp only [List.mem_cons, List.not_mem_nil, or_false] at h
    rcases h with rfl | rfl <;> exact ⟨_, by omega, rfl⟩
  | case3 a b =>
    have ha := a.toNat_lt
    have hb := b.toNat_lt
    simp only [List.mem_cons, List.not_mem_nil, or_false] at h
    rcases h with rfl | rfl | rfl <;> exact ⟨_, by omega, rfl⟩
  | case4 a b c' rest ih =>
    have ha := a.toNat_lt
    have hb := b.toNat_lt
    have hc := c'.toNat_lt
    simp only [List.mem_cons] at h
    rcases h with rfl | rfl | rfl | rfl | h
    · exact ⟨_, by omega, rfl⟩
    · exact ⟨_, by omega, rfl⟩
    · exact ⟨_, by omega, rfl⟩
    · exact ⟨_, by omega, rfl⟩
    · exact ih h

/-- A text has four characters for every three bytes, and one more than bytes for a last group of one or two. -/
theorem length_encode (alphabet : Base64) (bytes : List UInt8) :
    (alphabet.encode bytes).length = (bytes.length * 4 + 2) / 3 := by
  fun_induction encode alphabet bytes with
  | case1 => rfl
  | case2 a => simp
  | case3 a b => simp
  | case4 a b c rest ih =>
    simp only [List.length_cons, ih]
    omega

/-- No URL-safe text holds a dot. -/
theorem dot_not_mem_encode_urlSafe (bytes : List UInt8) : '.' ∉ urlSafe.encode bytes := by
  intro h
  obtain ⟨n, hn, he⟩ := exists_digit_of_mem_encode h
  have all : ∀ n < 64, '.' ≠ urlSafe.digit n := by decide
  exact all n hn he

end Gatehouse.Encoding.Base64
