import Mathlib
import Gatehouse.Proofs.Encoding.Hex
import Gatehouse.Text.Utf8

/-!
# Texts and their UTF-8 bytes

Every text is read back from its bytes (`decode?_encode`): the bytes of a character begin like that character whatever
follows them (`front_encodeChar`). The bytes of a character beyond ASCII are no ASCII bytes, so that a reader that looks
for quotes, dots or control characters among the bytes finds those of the text and no others.
-/

namespace Gatehouse.Text.Utf8

/-- The code points of characters: below the surrogates, or above them up to the last one. -/
theorem toNat_valid (c : Char) : c.toNat < 0xD800 ∨ (0xDFFF < c.toNat ∧ c.toNat < 0x110000) := c.valid

@[simp] theorem encode_nil : encode [] = [] := rfl

@[simp] theorem encode_cons (c : Char) (s : List Char) : encode (c :: s) = encodeChar c ++ encode s := by
  simp [encode]

@[simp] theorem encode_append (s t : List Char) : encode (s ++ t) = encode s ++ encode t := by
  simp [encode]

/-! ## One character -/

/-- An ASCII character is one byte. -/
theorem encodeChar_ascii {c : Char} (h : c.toNat < 0x80) : encodeChar c = [c.toNat.toUInt8] := by
  rw [encodeChar, if_pos h]

/-- The bytes of a character beyond ASCII lie beyond ASCII. -/
theorem le_of_mem_encodeChar {c : Char} (h : 0x80 ≤ c.toNat) {b : UInt8} (hb : b ∈ encodeChar c) :
    0x80 ≤ b.toNat := by
  have hv := toNat_valid c
  unfold encodeChar at hb
  rw [if_neg (by omega)] at hb
  split at hb
  · simp only [List.mem_cons, List.not_mem_nil, or_false] at hb
    rcases hb with rfl | rfl <;> rw [toNat_toUInt8 (by omega)] <;> omega
  split at hb
  · simp only [List.mem_cons, List.not_mem_nil, or_false] at hb
    rcases hb with rfl | rfl | rfl <;> rw [toNat_toUInt8 (by omega)] <;> omega
  · simp only [List.mem_cons, List.not_mem_nil, or_false] at hb
    rcases hb with rfl | rfl | rfl | rfl <;> rw [toNat_toUInt8 (by omega)] <;> omega

/-- The byte of an ASCII character stands among the bytes of a text only where the text has this character. -/
theorem mem_of_mem_encode {c : Char} (hc : c.toNat < 0x80) {s : List Char} (h : c.toNat.toUInt8 ∈ encode s) :
    c ∈ s := by
  have hn := toNat_toUInt8 (show c.toNat < 256 by omega)
  obtain ⟨d, hd, hmem⟩ := List.mem_flatMap.1 h
  by_cases hascii : d.toNat < 0x80
  · have hd' := toNat_toUInt8 (show d.toNat < 256 by omega)
    rw [encodeChar_ascii hascii, List.mem_singleton] at hmem
    have hsame : c.toNat = d.toNat := by rw [← hn, ← hd', hmem]
    obtain rfl : c = d := Char.toNat_inj.1 hsame
    exact hd
  · have hle := le_of_mem_encodeChar (Nat.le_of_not_lt hascii) hmem
    omega

/-- An ASCII text has one byte for every character. -/
theorem length_encode_of_ascii {s : List Char} (h : ∀ c ∈ s, c.toNat < 0x80) : (encode s).length = s.length := by
  induction s with
  | nil => rfl
  | cons c s ih =>
    rw [encode_cons, encodeChar_ascii (h c List.mem_cons_self), List.length_append,
      ih fun d hd => h d (List.mem_cons_of_mem c hd), List.length_singleton, List.length_cons, Nat.add_comm]

/-- Every character has at least one byte. -/
theorem encodeChar_ne_nil (c : Char) : encodeChar c ≠ [] := by
  unfold encodeChar
  dsimp only
  split_ifs <;> simp

/-- A byte with six free bits continues a character. -/
theorem isTail_ofNat {k : Nat} (h : k < 64) : isTail (0x80 + k).toUInt8 = true := by
  simp only [isTail, Bool.and_eq_true, decide_eq_true_eq, UInt8.le_iff_toNat_le,
    toNat_toUInt8 (show 0x80 + k < 256 by omega)]
  exact ⟨by simp, by change 128 + k ≤ 191; omega⟩

/-- The second byte of a three-byte character is none that makes an overlong form or a surrogate. -/
theorem isSecondOfThree_ofNat {n : Nat} (h1 : 0x800 ≤ n) (h2 : n < 0x10000) (hs : n < 0xD800 ∨ 0xDFFF < n) :
    isSecondOfThree (0xE0 + n / 4096).toUInt8 (0x80 + n / 64 % 64).toUInt8 = true := by
  have ha := toNat_toUInt8 (show 0xE0 + n / 4096 < 256 by omega)
  have hb := toNat_toUInt8 (show 0x80 + n / 64 % 64 < 256 by omega)
  unfold isSecondOfThree
  split_ifs with h h'
  · have e : 0xE0 + n / 4096 = 0xE0 := by rw [← ha, h]; rfl
    simp only [Bool.and_eq_true, decide_eq_true_eq, UInt8.le_iff_toNat_le, hb]
    exact ⟨by change 160 ≤ _; omega, by change _ ≤ 191; omega⟩
  · have e : 0xE0 + n / 4096 = 0xED := by rw [← ha, h']; rfl
    simp only [Bool.and_eq_true, decide_eq_true_eq, UInt8.le_iff_toNat_le, hb]
    exact ⟨by change 128 ≤ _; omega, by change _ ≤ 159; omega⟩
  · exact isTail_ofNat (by omega)

/-- The second byte of a four-byte character is none that makes an overlong form or leaves the code points. -/
theorem isSecondOfFour_ofNat {n : Nat} (h1 : 0x10000 ≤ n) (h2 : n < 0x110000) :
    isSecondOfFour (0xF0 + n / 262144).toUInt8 (0x80 + n / 4096 % 64).toUInt8 = true := by
  have ha := toNat_toUInt8 (show 0xF0 + n / 262144 < 256 by omega)
  have hb := toNat_toUInt8 (show 0x80 + n / 4096 % 64 < 256 by omega)
  unfold isSecondOfFour
  split_ifs with h h'
  · have e : 0xF0 + n / 262144 = 0xF0 := by rw [← ha, h]; rfl
    simp only [Bool.and_eq_true, decide_eq_true_eq, UInt8.le_iff_toNat_le, hb]
    exact ⟨by change 144 ≤ _; omega, by change _ ≤ 191; omega⟩
  · have e : 0xF0 + n / 262144 = 0xF4 := by rw [← ha, h']; rfl
    simp only [Bool.and_eq_true, decide_eq_true_eq, UInt8.le_iff_toNat_le, hb]
    exact ⟨by change 128 ≤ _; omega, by change _ ≤ 143; omega⟩
  · exact isTail_ofNat (by omega)

/-- What stands at the front when the first byte is that of a two-byte character. -/
theorem front_two {b c : UInt8} (h : 0xC2 ≤ b.toNat ∧ b.toNat ≤ 0xDF) (hc : isTail c = true) (rest : List UInt8) :
    front b (c :: rest) = .char (join2 b c) rest := by
  rw [front.eq_def, if_neg, if_pos]
  · simp only [hc, if_true]
  · simpa [UInt8.le_iff_toNat_le] using h
  · simp [UInt8.lt_iff_toNat_lt]
    omega

/-- What stands at the front when the first byte is that of a three-byte character. -/
theorem front_three {b c d : UInt8} (h : 0xE0 ≤ b.toNat ∧ b.toNat ≤ 0xEF) (hc : isSecondOfThree b c = true)
    (hd : isTail d = true) (rest : List UInt8) : front b (c :: d :: rest) = .char (join3 b c d) rest := by
  rw [front.eq_def, if_neg, if_neg, if_pos]
  · simp only [hc, hd, if_true]
  · simpa [UInt8.le_iff_toNat_le] using h
  · simp [UInt8.le_iff_toNat_le]
    omega
  · simp [UInt8.lt_iff_toNat_lt]
    omega

/-- What stands at the front when the first byte is that of a four-byte character. -/
theorem front_four {b c d e : UInt8} (h : 0xF0 ≤ b.toNat ∧ b.toNat ≤ 0xF4) (hc : isSecondOfFour b c = true)
    (hd : isTail d = true) (he : isTail e = true) (rest : List UInt8) :
    front b (c :: d :: e :: rest) = .char (join4 b c d e) rest := by
  rw [front.eq_def, if_neg, if_neg, if_neg, if_pos]
  · simp only [hc, hd, he, if_true]
  · simpa [UInt8.le_iff_toNat_le] using h
  · simp [UInt8.le_iff_toNat_le]
    omega
  · simp [UInt8.le_iff_toNat_le]
    omega
  · simp [UInt8.lt_iff_toNat_lt]
    omega

/-- The bytes of a character begin like that character, whatever follows them. -/
theorem front_encodeChar (c : Char) (rest : List UInt8) :
    ∃ b tail, encodeChar c = b :: tail ∧ front b (tail ++ rest) = .char c rest := by
  have hv := toNat_valid c
  have char {n : Nat} (h : n = c.toNat) : Char.ofNat n = c := by rw [h, Char.ofNat_toNat]
  unfold encodeChar
  dsimp only
  split_ifs with h1 h2 h3
  · have hb := toNat_toUInt8 (show c.toNat < 256 by omega)
    refine ⟨_, _, rfl, ?_⟩
    rw [front.eq_def, if_pos (UInt8.lt_iff_toNat_lt.2 (by rw [hb]; exact h1)), hb, char rfl]
    rfl
  · have hb := toNat_toUInt8 (show 0xC0 + c.toNat / 64 < 256 by omega)
    have hb' := toNat_toUInt8 (show 0x80 + c.toNat % 64 < 256 by omega)
    refine ⟨_, _, rfl, ?_⟩
    rw [List.cons_append, front_two (by omega) (isTail_ofNat (by omega)), join2, hb, hb', char (by omega)]
    rfl
  · have hb := toNat_toUInt8 (show 0xE0 + c.toNat / 4096 < 256 by omega)
    have hb' := toNat_toUInt8 (show 0x80 + c.toNat / 64 % 64 < 256 by omega)
    have hb'' := toNat_toUInt8 (show 0x80 + c.toNat % 64 < 256 by omega)
    refine ⟨_, _, rfl, ?_⟩
    rw [List.cons_append, List.cons_append,
      front_three (by omega) (isSecondOfThree_ofNat (by omega) h3 (by omega)) (isTail_ofNat (by omega)), join3, hb, hb',
      hb'', char (by omega)]
    rfl
  · have hb := toNat_toUInt8 (show 0xF0 + c.toNat / 262144 < 256 by omega)
    have hb1 := toNat_toUInt8 (show 0x80 + c.toNat / 4096 % 64 < 256 by omega)
    have hb2 := toNat_toUInt8 (show 0x80 + c.toNat / 64 % 64 < 256 by omega)
    have hb3 := toNat_toUInt8 (show 0x80 + c.toNat % 64 < 256 by omega)
    refine ⟨_, _, rfl, ?_⟩
    rw [List.cons_append, List.cons_append, List.cons_append,
      front_four (by omega) (isSecondOfFour_ofNat (by omega) (by omega)) (isTail_ofNat (by omega))
        (isTail_ofNat (by omega)), join4, hb, hb1, hb2, hb3, char (by omega)]
    rfl

/-! ## Texts -/

/-- A text is read back from its bytes when there are as many steps as characters, whatever becomes of bad bytes. -/
theorem decodeWith_encode (bad : List Char → Option (List Char)) (s : List Char) :
    ∀ fuel, s.length ≤ fuel → decodeWith bad fuel (encode s) = some s := by
  induction s with
  | nil =>
    intro fuel _
    cases fuel <;> rfl
  | cons c s ih =>
    intro fuel hf
    obtain ⟨fuel, rfl⟩ := Nat.exists_eq_add_of_le' (show 1 ≤ fuel by rw [List.length_cons] at hf; omega)
    obtain ⟨b, tail, he, hfront⟩ := front_encodeChar c (encode s)
    rw [encode_cons, he, List.cons_append, decodeWith, hfront]
    dsimp only
    rw [ih fuel (by rw [List.length_cons] at hf; omega)]
    rfl

/-- A text has no more characters than bytes. -/
theorem length_le_length_encode (s : List Char) : s.length ≤ (encode s).length := by
  induction s with
  | nil => simp
  | cons c s ih =>
    have := List.length_pos_of_ne_nil (encodeChar_ne_nil c)
    rw [encode_cons, List.length_append, List.length_cons]
    omega

/-- Every text is read back from its bytes. -/
theorem decode?_encode (s : List Char) : decode? (encode s) = some s :=
  decodeWith_encode _ s _ (length_le_length_encode s)

/-- Every string is read back from its bytes. -/
theorem decodeString?_ofString (s : String) : decodeString? (ofString s) = some s := by
  rw [decodeString?, ofString, decode?_encode, Option.map_some, String.ofList_toList]

/-- A character has as many bytes as its size says. -/
theorem length_encodeChar (c : Char) : (encodeChar c).length = c.utf8Size := by
  have hsize : c.utf8Size =
      if c.toNat ≤ 0x7F then 1 else if c.toNat ≤ 0x7FF then 2 else if c.toNat ≤ 0xFFFF then 3 else 4 := by
    unfold Char.utf8Size
    simp only [UInt32.le_iff_toNat_le]
    rfl
  rw [hsize]
  unfold encodeChar
  dsimp only
  split_ifs
  -- The cases in which the two divisions of the code points do not agree are impossible.
  all_goals simp only [List.length_cons, List.length_nil] <;> omega

/-- A text has as many bytes as its string. -/
theorem length_ofString (s : String) : (ofString s).length = s.utf8ByteSize := by
  have hchars (cs : List Char) : (encode cs).length = (String.ofList cs).utf8ByteSize := by
    induction cs with
    | nil => rfl
    | cons c cs ih =>
      rw [encode_cons, List.length_append, length_encodeChar, ih, String.ofList_cons, String.utf8ByteSize_append,
        String.utf8ByteSize_singleton]
  rw [ofString, hchars, String.ofList_toList]

end Gatehouse.Text.Utf8
