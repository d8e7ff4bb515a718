import Mathlib
import Gatehouse.Json.Record
import Gatehouse.Json.Value
import Gatehouse.Proofs.Decimal.Shortest
import Gatehouse.Proofs.Text.Utf8

/-!
# JSON strings and integers, written and read

A string is read back from its text between quotes, whatever its characters and whatever follows (`readString_write`),
and so is an integer of 64 bits when no further digit follows (`integerValue_write`).
-/

namespace Gatehouse.Json

open Decimal (IsDigits IsLeading)
open Text (Utf8.encode Utf8.encodeChar)

/-! ## Characters between quotes -/

/-- A byte that stands for itself between quotes. -/
def IsPlain (b : UInt8) : Prop := b ≠ 0x22 ∧ b ≠ 0x5C ∧ ¬b < 0x20

/-- The bytes of a character that is written as it is stand for themselves. -/
theorem isPlain_of_mem_encodeChar {c : Char} (hq : c ≠ '"') (hb : c ≠ '\\') (hc : 0x20 ≤ c.toNat) {b : UInt8}
    (h : b ∈ Utf8.encodeChar c) : IsPlain b := by
  have ne {k : UInt8} (e : b.toNat ≠ k.toNat) : b ≠ k := fun h => e (congrArg UInt8.toNat h)
  by_cases ha : c.toNat < 0x80
  · rw [Text.Utf8.encodeChar_ascii ha, List.mem_singleton] at h
    have hn : b.toNat = c.toNat := by rw [h, toNat_toUInt8 (by omega)]
    have hq' : c.toNat ≠ 0x22 := fun e => hq (Char.toNat_inj.1 e)
    have hb' : c.toNat ≠ 0x5C := fun e => hb (Char.toNat_inj.1 e)
    refine ⟨ne ?_, ne ?_, ?_⟩
    · rw [hn]
      exact hq'
    · rw [hn]
      exact hb'
    · rw [UInt8.lt_iff_toNat_lt, hn]
      change ¬c.toNat < 32
      omega
  · have := Text.Utf8.le_of_mem_encodeChar (by omega) h
    refine ⟨ne ?_, ne ?_, ?_⟩
    · change b.toNat ≠ 34
      omega
    · change b.toNat ≠ 92
      omega
    · rw [UInt8.lt_iff_toNat_lt]
      change ¬b.toNat < 32
      omega

/-- Bytes that stand for themselves are read one by one; enough steps are left for what follows. -/
theorem readStringBytes_plain {bs : List UInt8} (h : ∀ b ∈ bs, IsPlain b) :
    ∀ (fuel : Nat) (read tail : List UInt8), (bs ++ tail).length < fuel →
      ∃ fuel', tail.length < fuel' ∧
        readStringBytes fuel read (bs ++ tail) = readStringBytes fuel' (bs.reverse ++ read) tail := by
  induction bs with
  | nil =>
    intro fuel read tail hf
    exact ⟨fuel, hf, rfl⟩
  | cons b bs ih =>
    intro fuel read tail hf
    rw [List.cons_append, List.length_cons] at hf
    obtain ⟨fuel, rfl⟩ := Nat.exists_eq_add_of_le' (show 1 ≤ fuel by omega)
    obtain ⟨hq, hb, hc⟩ := h b List.mem_cons_self
    obtain ⟨fuel', hf', he⟩ := ih (fun x hx => h x (List.mem_cons_of_mem b hx)) fuel (b :: read) tail (by omega)
    refine ⟨fuel', hf', ?_⟩
    rw [List.cons_append, readStringBytes, if_neg hq, if_neg hb, if_neg hc, he, List.reverse_cons, List.append_assoc]
    rfl

/-- An escape is read as its character; enough steps are left for what follows. -/
theorem readStringBytes_escape {e : List UInt8} {c : Char} (h : ∀ tail, readEscape (e ++ tail) = .ok (c, tail))
    (fuel : Nat) (read tail : List UInt8) (hf : (0x5C :: e ++ tail).length < fuel) :
    ∃ fuel', tail.length < fuel' ∧
      readStringBytes fuel read (0x5C :: e ++ tail) =
        readStringBytes fuel' ((Utf8.encodeChar c).reverse ++ read) tail := by
  simp only [List.cons_append, List.length_cons, List.length_append] at hf
  obtain ⟨fuel, rfl⟩ := Nat.exists_eq_add_of_le' (show 1 ≤ fuel by omega)
  refine ⟨fuel, by omega, ?_⟩
  rw [List.cons_append, readStringBytes, if_neg (by decide), if_pos rfl, h]

/-- A hexadecimal digit is one byte, which is read as the digit. -/
theorem hexDigit_byte : ∀ n < 16, Utf8.encodeChar (Encoding.Hex.digit n) = [(Encoding.Hex.digit n).toNat.toUInt8] ∧
    Encoding.Hex.value? (Char.ofNat (Encoding.Hex.digit n).toNat.toUInt8.toNat) = some n := by
  decide

/-- The escape of a control character without a letter of its own is read as that character. -/
theorem readEscape_control {c : Char} (h : c.toNat < 0x20) :
    ∃ e, Utf8.encode ['\\', 'u', '0', '0', Encoding.Hex.digit (c.toNat / 16), Encoding.Hex.digit (c.toNat % 16)] =
      0x5C :: e ∧ ∀ tail, readEscape (e ++ tail) = .ok (c, tail) := by
  obtain ⟨h1, v1⟩ := hexDigit_byte (c.toNat / 16) (by omega)
  obtain ⟨h2, v2⟩ := hexDigit_byte (c.toNat % 16) (by omega)
  have hn : ((0 * 16 + 0) * 16 + c.toNat / 16) * 16 + c.toNat % 16 = c.toNat := by omega
  have zero : Encoding.Hex.value? (Char.ofNat (0x30 : UInt8).toNat) = some 0 := by decide
  refine ⟨[0x75, 0x30, 0x30, (Encoding.Hex.digit (c.toNat / 16)).toNat.toUInt8,
    (Encoding.Hex.digit (c.toNat % 16)).toNat.toUInt8], ?_, ?_⟩
  · simp only [Text.Utf8.encode_cons, Text.Utf8.encode_nil, h1, h2]
    rfl
  · intro tail
    have hex : readHex4 (0x30 :: 0x30 :: (Encoding.Hex.digit (c.toNat / 16)).toNat.toUInt8 ::
        (Encoding.Hex.digit (c.toNat % 16)).toNat.toUInt8 :: tail) = .ok (c.toNat, tail) := by
      simp only [readHex4, zero, v1, v2, hn]
    change readUnicodeEscape (0x30 :: 0x30 :: (Encoding.Hex.digit (c.toNat / 16)).toNat.toUInt8 ::
        (Encoding.Hex.digit (c.toNat % 16)).toNat.toUInt8 :: tail) = _
    simp only [readUnicodeEscape, hex]
    rw [if_neg (by omega), if_pos (by omega), Char.ofNat_toNat]

/-- A character is read back from what is written for it between quotes; enough steps are left for what follows. -/
theorem readStringBytes_writeChar (c : Char) (fuel : Nat) (read tail : List UInt8)
    (hf : (Utf8.encode (writeChar c) ++ tail).length < fuel) :
    ∃ fuel', tail.length < fuel' ∧ readStringBytes fuel read (Utf8.encode (writeChar c) ++ tail) =
      readStringBytes fuel' ((Utf8.encodeChar c).reverse ++ read) tail := by
  unfold writeChar at hf ⊢
  split_ifs at hf ⊢ with h1 h2 h3 h4 h5 h6 h7 h8
  · subst h1
    exact readStringBytes_escape (e := [0x22]) (fun _ => rfl) fuel read tail hf
  · subst h2
    exact readStringBytes_escape (e := [0x5C]) (fun _ => rfl) fuel read tail hf
  · subst h3
    exact readStringBytes_escape (e := [0x62]) (fun _ => rfl) fuel read tail hf
  · subst h4
    exact readStringBytes_escape (e := [0x66]) (fun _ => rfl) fuel read tail hf
  · subst h5
    exact readStringBytes_escape (e := [0x6E]) (fun _ => rfl) fuel read tail hf
  · subst h6
    exact readStringBytes_escape (e := [0x72]) (fun _ => rfl) fuel read tail hf
  · subst h7
    exact readStringBytes_escape (e := [0x74]) (fun _ => rfl) fuel read tail hf
  · obtain ⟨e, he, hread⟩ := readEscape_control h8
    rw [he] at hf ⊢
    exact readStringBytes_escape hread fuel read tail hf
  · rw [Text.Utf8.encode_cons, Text.Utf8.encode_nil, List.append_nil] at hf ⊢
    exact readStringBytes_plain (fun b hb => isPlain_of_mem_encodeChar h1 h2 (by omega) hb) fuel read tail hf

/-! ## Strings -/

/-- The characters of a string are read back up to the closing quote. -/
theorem readStringBytes_write (cs : List Char) (rest : List UInt8) :
    ∀ (fuel : Nat) (read : List UInt8), (Utf8.encode (cs.flatMap writeChar) ++ 0x22 :: rest).length < fuel →
      readStringBytes fuel read (Utf8.encode (cs.flatMap writeChar) ++ 0x22 :: rest) =
        .ok (read.reverse ++ Utf8.encode cs, rest) := by
  induction cs with
  | nil =>
    intro fuel read hf
    obtain ⟨fuel, rfl⟩ := Nat.exists_eq_add_of_le' (show 1 ≤ fuel by omega)
    rw [List.flatMap_nil, Text.Utf8.encode_nil, List.nil_append, readStringBytes, if_pos rfl, List.append_nil]
  | cons c cs ih =>
    intro fuel read hf
    rw [List.flatMap_cons, Text.Utf8.encode_append, List.append_assoc] at hf ⊢
    obtain ⟨fuel', hf', he⟩ := readStringBytes_writeChar c fuel read _ hf
    rw [he, ih fuel' _ hf', List.reverse_append, List.reverse_reverse, List.append_assoc, Text.Utf8.encode_cons]

/-- A string is read back from what is written for it, after the opening quote. -/
theorem readString_write (s : String) (rest : List UInt8) :
    readString (Utf8.encode (s.toList.flatMap writeChar) ++ 0x22 :: rest) = .ok (s, rest) := by
  unfold readString
  rw [readStringBytes_write s.toList rest _ [] (Nat.lt_succ_self _)]
  simp only [List.reverse_nil, List.nil_append]
  rw [show Utf8.encode s.toList = Text.Utf8.ofString s from rfl, Text.Utf8.decodeString?_ofString]

/-- The bytes of a written string: quotes around what is written for its characters. -/
theorem encode_writeString (s : String) (rest : List UInt8) :
    Utf8.encode (writeString s) ++ rest = 0x22 :: (Utf8.encode (s.toList.flatMap writeChar) ++ 0x22 :: rest) := by
  simp only [writeString, List.cons_append, Text.Utf8.encode_cons, Text.Utf8.encode_append, Text.Utf8.encode_nil,
    List.append_nil, List.append_assoc]
  rfl

/-- A string is read as a value from what is written for it. -/
theorem stringValue_write (expected : String) (s : String) (rest : List UInt8) :
    stringValue expected (Utf8.encode (writeString s) ++ rest) = .ok (s, rest) := by
  rw [encode_writeString]
  exact readString_write s rest

/-! ## Integers -/

/-- The bytes of a number, in decimal. -/
def decimalBytes (n : Nat) : List UInt8 := Utf8.encode (Nat.toDigits 10 n)

/-- Whether a number ends before the rest of the bytes: no digit, point or exponent follows. -/
def EndsNumber (rest : List UInt8) : Prop := ∀ b ∈ rest.head?, isDigit b = false ∧ b ≠ 0x2E ∧ b ≠ 0x65 ∧ b ≠ 0x45

/-- A decimal digit is one byte. -/
theorem encodeChar_digit {c : Char} (h : c.isDigit = true) :
    Utf8.encodeChar c = [c.toNat.toUInt8] ∧ c.toNat.toUInt8.toNat = c.toNat ∧ isDigit c.toNat.toUInt8 = true := by
  obtain ⟨h1, h2⟩ : 48 ≤ c.toNat ∧ c.toNat ≤ 57 := by
    simpa [Char.isDigit, UInt32.le_iff_toNat_le] using h
  have hn := toNat_toUInt8 (show c.toNat < 256 by omega)
  refine ⟨Text.Utf8.encodeChar_ascii (by omega), hn, ?_⟩
  simp only [isDigit, Bool.and_eq_true, decide_eq_true_eq, UInt8.le_iff_toNat_le, hn]
  exact ⟨h1, h2⟩

/-- Decimal digits are one byte each. -/
theorem encode_digits {ds : List Char} (h : ∀ c ∈ ds, c.isDigit = true) :
    Utf8.encode ds = ds.map (·.toNat.toUInt8) := by
  induction ds with
  | nil => rfl
  | cons c ds ih =>
    rw [Text.Utf8.encode_cons, (encodeChar_digit (h c List.mem_cons_self)).1,
      ih fun x hx => h x (List.mem_cons_of_mem c hx)]
    rfl

/-- A decimal digit is none of the bytes that are not decimal digits. -/
theorem ne_of_isDigit {b other : UInt8} (h : isDigit b = true) (ho : isDigit other = false) : b ≠ other := by
  rintro rfl
  exact Bool.false_ne_true (ho.symm.trans h)

/-- A decimal digit is no space. -/
theorem not_isSpace_of_isDigit {b : UInt8} (h : isDigit b = true) : ¬isSpace b = true := by
  have hspaces : b ≠ 0x20 ∧ b ≠ 0x09 ∧ b ≠ 0x0A ∧ b ≠ 0x0D :=
    ⟨ne_of_isDigit h rfl, ne_of_isDigit h rfl, ne_of_isDigit h rfl, ne_of_isDigit h rfl⟩
  simp [isSpace, hspaces]

/-- The bytes of decimal digits are decimal digits. -/
theorem isDigit_of_mem_encode {ds : List Char} (h : IsDigits ds) : ∀ b ∈ Utf8.encode ds, isDigit b = true := by
  intro b hb
  rw [encode_digits h.isDigit, List.mem_map] at hb
  obtain ⟨c, hc, rfl⟩ := hb
  exact (encodeChar_digit (h.isDigit c hc)).2.2

/-- Decimal digits begin with the byte of one. -/
theorem encode_isDigits_cons {ds : List Char} (h : IsDigits ds) :
    ∃ b bs, Utf8.encode ds = b :: bs ∧ isDigit b = true := by
  obtain ⟨c, cs, rfl⟩ := List.exists_cons_of_ne_nil h.ne_nil
  obtain ⟨hc, -, hb⟩ := encodeChar_digit (h.isDigit c List.mem_cons_self)
  exact ⟨_, Utf8.encode cs, by rw [Text.Utf8.encode_cons, hc, List.singleton_append], hb⟩

/-- Digits that begin with no zero begin with the byte of another digit. -/
theorem encode_isLeading_cons {ds : List Char} (h : IsLeading ds) :
    ∃ b bs, Utf8.encode ds = b :: bs ∧ isDigit b = true ∧ b ≠ 0x30 := by
  obtain ⟨c, cs, rfl⟩ := List.exists_cons_of_ne_nil h.ne_nil
  obtain ⟨hc, hn, hb⟩ := encodeChar_digit (h.isDigit c List.mem_cons_self)
  refine ⟨_, Utf8.encode cs, by rw [Text.Utf8.encode_cons, hc, List.singleton_append], hb, fun e => h.head?_ne ?_⟩
  rw [List.head?_cons, Option.some.injEq]
  exact Char.toNat_inj.1 (hn.symm.trans (congrArg UInt8.toNat e))

/-- The bytes of a number are decimal digits. -/
theorem isDigit_of_mem_decimalBytes {n : Nat} : ∀ b ∈ decimalBytes n, isDigit b = true :=
  isDigit_of_mem_encode (Decimal.isDigits_toDigits n)

/-- The value of decimal digits is the number that they write. -/
theorem digitsValue_decimalBytes (n : Nat) : digitsValue (decimalBytes n) = n := by
  have general : ∀ (ds : List Char) (k : Nat), (∀ c ∈ ds, c.isDigit = true) →
      (ds.map (·.toNat.toUInt8)).foldl (fun n b => n * 10 + (b.toNat - 0x30)) k = Nat.ofDigitChars 10 ds k := by
    intro ds
    induction ds with
    | nil =>
      intro k _
      rfl
    | cons c ds ih =>
      intro k h
      rw [List.map_cons, List.foldl_cons, (encodeChar_digit (h c List.mem_cons_self)).2.1, Nat.ofDigitChars_cons,
        ih _ fun x hx => h x (List.mem_cons_of_mem c hx), Nat.mul_comm]
      rfl
  have hdigits := (Decimal.isDigits_toDigits n).isDigit
  rw [digitsValue, decimalBytes, encode_digits hdigits, general _ _ hdigits, Nat.ofDigitChars_ten_toDigits]

/-- The bytes of a number: a single zero, or digits of which the first is none. -/
theorem decimalBytes_cases (n : Nat) :
    (n = 0 ∧ decimalBytes n = [0x30]) ∨ ∃ b bs, decimalBytes n = b :: bs ∧ isDigit b = true ∧ b ≠ 0x30 := by
  rcases Nat.eq_zero_or_pos n with rfl | h
  · exact Or.inl ⟨rfl, by rw [decimalBytes, Nat.toDigits_zero]; rfl⟩
  · exact Or.inr (encode_isLeading_cons (Decimal.isLeading_toDigits h))

/-- The digits at the front of some bytes, when all of the bytes before the rest are digits and the rest begins with
none. -/
theorem span_digits {ds rest : List UInt8} (hd : ∀ b ∈ ds, isDigit b = true)
    (hr : ∀ b ∈ rest.head?, isDigit b = false) :
    (ds ++ rest).takeWhile isDigit = ds ∧ (ds ++ rest).dropWhile isDigit = rest := by
  rw [List.takeWhile_append_of_pos hd, List.dropWhile_append_of_pos hd]
  cases rest with
  | nil => simp
  | cons b rest =>
    simp [hr b rfl]

/-- A number ends where no digit, point or exponent follows. -/
theorem readNumberTail_of_endsNumber {negative : Bool} {whole rest : List UInt8} (h : EndsNumber rest) :
    readNumberTail negative whole rest = readNumberTail.finish negative whole rest := by
  cases rest with
  | nil => rfl
  | cons b rest =>
    obtain ⟨-, h1, h2, h3⟩ := h b rfl
    simp [readNumberTail, h1, h2, h3]

/-- A number is read from its digits. -/
theorem readUnsigned_decimalBytes (negative : Bool) (n : Nat) {rest : List UInt8} (h : EndsNumber rest) :
    readUnsigned negative (decimalBytes n ++ rest) = readNumberTail.finish negative (decimalBytes n) rest := by
  rcases decimalBytes_cases n with ⟨-, hn⟩ | ⟨b, bs, hn, hb, hne⟩
  · rw [hn, List.cons_append, List.nil_append, readUnsigned.eq_def]
    dsimp only
    rw [if_pos rfl]
    cases rest with
    | nil => rfl
    | cons d rest =>
      simp only [(h d rfl).1]
      exact readNumberTail_of_endsNumber h
  · obtain ⟨ht, hd⟩ := span_digits (isDigit_of_mem_decimalBytes (n := n)) fun b hb => (h b hb).1
    rw [hn, List.cons_append] at ht hd ⊢
    rw [readUnsigned.eq_def]
    dsimp only
    rw [if_neg hne, if_pos hb, ht, hd]
    exact readNumberTail_of_endsNumber h

/-- The integers that 64 bits hold with a sign. -/
theorem isInt64_iff {n : Int} : Decimal.isInt64 n = true ↔ -0x8000000000000000 ≤ n ∧ n ≤ 0x7FFFFFFFFFFFFFFF := by
  simp only [Decimal.isInt64, Bool.and_eq_true, decide_eq_true_eq]
  exact Iff.rfl

/-- An integer of 64 bits is read from what is written for it, when no more of a number follows. -/
theorem readNumber_writeInteger {n : Int} (hn : Decimal.isInt64 n = true) {rest : List UInt8} (h : EndsNumber rest) :
    readNumber (Utf8.encode (writeInteger n) ++ rest) = .ok (.integer n, rest) := by
  obtain ⟨hmin, hmax⟩ := isInt64_iff.1 hn
  unfold writeInteger
  dsimp only
  split_ifs with hneg
  · have habs : -(n.natAbs : Int) = n := by omega
    change readNumber (0x2D :: (decimalBytes n.natAbs ++ rest)) = _
    rw [readNumber, if_pos rfl, readUnsigned_decimalBytes _ _ h, readNumberTail.finish, digitsValue_decimalBytes]
    simp only [habs, hn, show n.natAbs ≠ 0 by omega, decide_false, Bool.not_true, Bool.or_self, if_true]
    rfl
  · have habs : (n.natAbs : Int) = n := by omega
    change readNumber (decimalBytes n.natAbs ++ rest) = _
    have hread : readNumber (decimalBytes n.natAbs ++ rest) = readUnsigned false (decimalBytes n.natAbs ++ rest) := by
      rcases decimalBytes_cases n.natAbs with ⟨-, hd⟩ | ⟨b, bs, hd, hb, -⟩
      · rw [hd]
        rfl
      · have hminus : b ≠ 0x2D := ne_of_isDigit hb rfl
        rw [hd, List.cons_append, readNumber, if_neg hminus]
    rw [hread, readUnsigned_decimalBytes _ _ h, readNumberTail.finish, digitsValue_decimalBytes]
    simp only [habs, Decimal.maxUInt64, show n.natAbs ≤ 0xFFFFFFFFFFFFFFFF by omega, if_true]
    rfl

/-- The first byte of a written integer: a minus sign or a digit. -/
theorem encode_writeInteger_cons (n : Int) :
    ∃ b bs, Utf8.encode (writeInteger n) = b :: bs ∧ (b = 0x2D ∨ isDigit b = true) := by
  unfold writeInteger
  dsimp only
  split_ifs
  · exact ⟨_, _, rfl, Or.inl rfl⟩
  · rcases decimalBytes_cases n.natAbs with ⟨-, hd⟩ | ⟨b, bs, hd, hb, -⟩
    · exact ⟨_, _, hd, Or.inr (by decide)⟩
    · exact ⟨b, bs, hd, Or.inr hb⟩

/-- An integer of 64 bits is read as a value from what is written for it. -/
theorem integerValue_write (expected : String) {n : Int} (hn : Decimal.isInt64 n = true) {rest : List UInt8}
    (h : EndsNumber rest) : integerValue expected (Utf8.encode (writeInteger n) ++ rest) = .ok (n, rest) := by
  have hread := readNumber_writeInteger hn h
  obtain ⟨b, bs, he, hb⟩ := encode_writeInteger_cons n
  rw [he, List.cons_append] at hread ⊢
  have hspace : skipSpaces (b :: (bs ++ rest)) = b :: (bs ++ rest) := by
    rw [skipSpaces, List.dropWhile_cons_of_neg]
    rcases hb with rfl | hb
    · decide
    · exact not_isSpace_of_isDigit hb
  have hcond : (decide (b = 0x2D) || isDigit b) = true := by
    rcases hb with rfl | hb
    · rfl
    · rw [hb, Bool.or_true]
  simp only [integerValue, hspace, hcond, if_true, hread]

end Gatehouse.Json
