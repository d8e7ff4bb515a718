import Mathlib
import Gatehouse.Proofs.Json.Scalar

/-!
# The numbers of JSON

The grammar of JSON numbers: a minus sign if there is one, whole digits that begin with no zero unless it stands alone,
and perhaps a fraction and an exponent. A text of the grammar is passed over whatever its size is
(`skipScalar_of_isNumber`), and what is written for integers and for finite floating-point numbers is in the grammar
(`isNumber_writeInteger`, `isNumber_scientificText`).
-/

namespace Gatehouse.Json

open Decimal (IsDigits IsLeading)
open Text (Utf8.encode)

/-! ## The grammar -/

/-- The digits before the point. -/
inductive IsWhole : List Char → Prop where
  | zero : IsWhole ['0']
  | leading {ds : List Char} (digits : IsLeading ds) : IsWhole ds

/-- The point and the digits behind it. -/
inductive IsFraction : List Char → Prop where
  | absent : IsFraction []
  | point {ds : List Char} (digits : IsDigits ds) : IsFraction ('.' :: ds)

/-- A letter and a power of ten, with or without a sign. -/
inductive IsExponent : List Char → Prop where
  | absent : IsExponent []
  | bare {letter : Char} {ds : List Char} (letter_eq : letter = 'e' ∨ letter = 'E') (digits : IsDigits ds) :
      IsExponent (letter :: ds)
  | signed {letter sign : Char} {ds : List Char} (letter_eq : letter = 'e' ∨ letter = 'E')
      (sign_eq : sign = '+' ∨ sign = '-') (digits : IsDigits ds) : IsExponent (letter :: sign :: ds)

/-- A number without its sign. -/
structure IsUnsigned (s : List Char) : Prop where
  parts : ∃ whole fraction exponent, s = whole ++ (fraction ++ exponent) ∧ IsWhole whole ∧ IsFraction fraction ∧
    IsExponent exponent

/-- A JSON number. -/
inductive IsNumber : List Char → Prop where
  | positive {s : List Char} (unsigned : IsUnsigned s) : IsNumber s
  | negative {s : List Char} (unsigned : IsUnsigned s) : IsNumber ('-' :: s)

/-- The digits before the point are decimal digits. -/
theorem IsWhole.isDigits {ds : List Char} (h : IsWhole ds) : IsDigits ds := by
  cases h with
  | zero => exact ⟨by simp, by simp⟩
  | leading digits => exact digits.toIsDigits

/-! ## Passing over numbers -/

/-- Digits after the letter of an exponent, with or without a sign, are passed over. -/
theorem skipExponent_of_digits {ds : List Char} (h : IsDigits ds) {rest : List UInt8} (hrest : EndsNumber rest) :
    skipExponent (Utf8.encode ds ++ rest) = .ok ((), rest) ∧
      ∀ sign : UInt8, sign = 0x2B ∨ sign = 0x2D → skipExponent (sign :: (Utf8.encode ds ++ rest)) = .ok ((), rest) := by
  obtain ⟨b, bs, hb, hfirst⟩ := encode_isDigits_cons h
  have hdrop := (span_digits (isDigit_of_mem_encode h) fun b hb => (hrest b hb).1).2
  have hplus : b ≠ 0x2B := ne_of_isDigit hfirst rfl
  have hminus : b ≠ 0x2D := ne_of_isDigit hfirst rfl
  rw [hb, List.cons_append] at hdrop ⊢
  have hrun : (bs ++ rest).dropWhile isDigit = rest := by
    rwa [List.dropWhile_cons_of_pos hfirst] at hdrop
  constructor
  · simp [skipExponent, hplus, hminus, hfirst, hrun]
  · rintro sign (rfl | rfl)
    · simp [skipExponent, hfirst, hrun]
    · simp [skipExponent, hfirst, hrun]

/-- The letter of an exponent is a byte. -/
theorem encode_letter {letter : Char} (h : letter = 'e' ∨ letter = 'E') (s : List Char) :
    ∃ b : UInt8, (b = 0x65 ∨ b = 0x45) ∧ Utf8.encode (letter :: s) = b :: Utf8.encode s := by
  rcases h with rfl | rfl
  · exact ⟨0x65, Or.inl rfl, rfl⟩
  · exact ⟨0x45, Or.inr rfl, rfl⟩

/-- What follows the digits of a number is an exponent that is passed over, or ends the number. -/
theorem skipExponent_of_isExponent {exponent : List Char} (h : IsExponent exponent) {rest : List UInt8}
    (hrest : EndsNumber rest) :
    (exponent = [] ∧ Utf8.encode exponent ++ rest = rest) ∨
      ∃ b tail, (b = 0x65 ∨ b = 0x45) ∧ Utf8.encode exponent ++ rest = b :: tail ∧
        skipExponent tail = .ok ((), rest) := by
  cases h with
  | absent => exact Or.inl ⟨rfl, rfl⟩
  | @bare letter ds hletter digits =>
    obtain ⟨b, hb, he⟩ := encode_letter hletter ds
    refine Or.inr ⟨b, Utf8.encode ds ++ rest, hb, by rw [he, List.cons_append], ?_⟩
    exact (skipExponent_of_digits digits hrest).1
  | @signed letter sign ds hletter hsign digits =>
    obtain ⟨b, hb, he⟩ := encode_letter hletter (sign :: ds)
    refine Or.inr ⟨b, Utf8.encode (sign :: ds) ++ rest, hb, by rw [he, List.cons_append], ?_⟩
    rcases hsign with rfl | rfl
    · exact (skipExponent_of_digits digits hrest).2 0x2B (Or.inl rfl)
    · exact (skipExponent_of_digits digits hrest).2 0x2D (Or.inr rfl)

/-- An exponent, or what ends a number, begins with no digit. -/
theorem head?_of_isExponent {exponent : List Char} (h : IsExponent exponent) {rest : List UInt8}
    (hrest : EndsNumber rest) : ∀ b ∈ (Utf8.encode exponent ++ rest).head?, isDigit b = false := by
  rcases skipExponent_of_isExponent h hrest with ⟨-, heq⟩ | ⟨b, tail, hb, heq, -⟩
  · rw [heq]
    exact fun b hb => (hrest b hb).1
  · rw [heq]
    intro x hx
    obtain rfl := Option.some.inj hx
    rcases hb with rfl | rfl
    · rfl
    · rfl

/-- A fraction and an exponent are passed over. -/
theorem skipNumberTail_of_parts {fraction exponent : List Char} (hf : IsFraction fraction) (hx : IsExponent exponent)
    {rest : List UInt8} (hrest : EndsNumber rest) :
    skipNumberTail (Utf8.encode fraction ++ (Utf8.encode exponent ++ rest)) = .ok ((), rest) := by
  have hexponent := skipExponent_of_isExponent hx hrest
  have hafter := head?_of_isExponent hx hrest
  generalize Utf8.encode exponent ++ rest = after at hexponent hafter ⊢
  cases hf with
  | absent =>
    rw [Text.Utf8.encode_nil, List.nil_append]
    rcases hexponent with ⟨-, rfl⟩ | ⟨b, tail, hb, rfl, hskip⟩
    · cases after with
      | nil => rfl
      | cons b tail =>
        obtain ⟨-, hpoint, he, hE⟩ := hrest b rfl
        simp [skipNumberTail, hpoint, he, hE]
    · rcases hb with rfl | rfl
      · simp [skipNumberTail, hskip]
      · simp [skipNumberTail, hskip]
  | @point ds digits =>
    obtain ⟨d, bs, hd, -⟩ := encode_isDigits_cons digits
    obtain ⟨htake, hdrop⟩ := span_digits (isDigit_of_mem_encode digits) hafter
    have hsome : (Utf8.encode ds).isEmpty = false := by rw [hd]; rfl
    change skipNumberTail (0x2E :: (Utf8.encode ds ++ after)) = _
    simp only [skipNumberTail, htake, hdrop, hsome]
    rcases hexponent with ⟨-, rfl⟩ | ⟨b, tail, hb, rfl, hskip⟩
    · cases after with
      | nil => rfl
      | cons b tail =>
        obtain ⟨-, -, he, hE⟩ := hrest b rfl
        simp [he, hE]
    · rcases hb with rfl | rfl
      · simp [hskip]
      · simp [hskip]

/-- What follows the digits before the point begins with no digit. -/
theorem head?_of_parts {fraction exponent : List Char} (hf : IsFraction fraction) (hx : IsExponent exponent)
    {rest : List UInt8} (hrest : EndsNumber rest) :
    ∀ b ∈ (Utf8.encode fraction ++ (Utf8.encode exponent ++ rest)).head?, isDigit b = false := by
  cases hf with
  | absent => exact head?_of_isExponent hx hrest
  | point digits =>
    intro b hb
    obtain rfl := Option.some.inj hb
    rfl

/-- A number without its sign is passed over. -/
theorem skipUnsigned_of_isUnsigned {s : List Char} (h : IsUnsigned s) {rest : List UInt8} (hrest : EndsNumber rest) :
    skipUnsigned (Utf8.encode s ++ rest) = .ok ((), rest) := by
  obtain ⟨whole, fraction, exponent, rfl, hw, hf, hx⟩ := h.parts
  have htail := skipNumberTail_of_parts hf hx hrest
  have hhead := head?_of_parts hf hx hrest
  rw [Text.Utf8.encode_append, Text.Utf8.encode_append, List.append_assoc, List.append_assoc]
  generalize Utf8.encode fraction ++ (Utf8.encode exponent ++ rest) = tail at htail hhead ⊢
  cases hw with
  | zero =>
    change skipUnsigned (0x30 :: tail) = _
    cases tail with
    | nil => simpa [skipUnsigned] using htail
    | cons b tail => simpa [skipUnsigned, hhead b rfl] using htail
  | leading digits =>
    obtain ⟨b, bs, hb, hfirst, hzero⟩ := encode_isLeading_cons digits
    have hdrop := (span_digits (isDigit_of_mem_encode digits.toIsDigits) hhead).2
    rw [hb, List.cons_append] at hdrop ⊢
    rw [List.dropWhile_cons_of_pos hfirst] at hdrop
    rw [skipUnsigned.eq_def]
    dsimp only
    rw [if_neg hzero, if_pos hfirst, hdrop, htail]

/-- A number without its sign begins with a digit. -/
theorem encode_isUnsigned_cons {s : List Char} (h : IsUnsigned s) :
    ∃ b bs, Utf8.encode s = b :: bs ∧ isDigit b = true := by
  obtain ⟨whole, fraction, exponent, rfl, hw, -, -⟩ := h.parts
  obtain ⟨b, bs, hb, hfirst⟩ := encode_isDigits_cons hw.isDigits
  exact ⟨b, bs ++ Utf8.encode (fraction ++ exponent), by rw [Text.Utf8.encode_append, hb, List.cons_append], hfirst⟩

/-- A number is passed over as a scalar, up to where it ends. -/
theorem skipScalar_of_isNumber {s : List Char} (h : IsNumber s) :
    ∃ b bs, Utf8.encode s = b :: bs ∧ (b = 0x2D ∨ isDigit b = true) ∧
      ∀ rest, EndsNumber rest → skipScalar b (bs ++ rest) = .ok ((), rest) := by
  cases h with
  | positive unsigned =>
    obtain ⟨b, bs, hb, hfirst⟩ := encode_isUnsigned_cons unsigned
    have hminus : b ≠ 0x2D := ne_of_isDigit hfirst rfl
    have hletter : b ≠ 0x6E ∧ b ≠ 0x74 ∧ b ≠ 0x66 :=
      ⟨ne_of_isDigit hfirst rfl, ne_of_isDigit hfirst rfl, ne_of_isDigit hfirst rfl⟩
    refine ⟨b, bs, hb, Or.inr hfirst, fun rest hrest => ?_⟩
    have hskip := skipUnsigned_of_isUnsigned unsigned hrest
    rw [hb, List.cons_append] at hskip
    simp [skipScalar, hletter, hminus, hfirst, hskip]
  | @negative s unsigned =>
    refine ⟨0x2D, Utf8.encode s, rfl, Or.inl rfl, fun rest hrest => ?_⟩
    exact skipUnsigned_of_isUnsigned unsigned hrest

/-! ## Numbers that are written -/

/-- The digits of a whole number. -/
theorem isWhole_toDigits (n : Nat) : IsWhole (Nat.toDigits 10 n) := by
  rcases Nat.eq_zero_or_pos n with rfl | h
  · exact .zero
  · exact .leading (Decimal.isLeading_toDigits h)

/-- The digits before the point are a number. -/
theorem IsWhole.isUnsigned {ds : List Char} (h : IsWhole ds) : IsUnsigned ds :=
  ⟨ds, [], [], by simp, h, .absent, .absent⟩

/-- What is written for an integer is a number. -/
theorem isNumber_writeInteger (n : Int) : IsNumber (writeInteger n) := by
  have hdigits := (isWhole_toDigits n.natAbs).isUnsigned
  unfold writeInteger
  dsimp only
  split_ifs
  · exact .negative hdigits
  · exact .positive hdigits

/-- Whole digits, or such with a point and digits behind it: a number without an exponent. -/
inductive IsPositional : List Char → Prop where
  | whole {ds : List Char} (digits : IsWhole ds) : IsPositional ds
  | point {ds fraction : List Char} (digits : IsWhole ds) (behind : IsDigits fraction) :
      IsPositional (ds ++ '.' :: fraction)

/-- Digits hold no point. -/
theorem point_not_mem {ds : List Char} (h : IsDigits ds) : '.' ∉ ds := by
  intro hmem
  exact absurd (h.isDigit _ hmem) (by decide)

/-- A number without a point gets one with a zero behind it. -/
theorem isUnsigned_pointed {body : List Char} (h : IsPositional body) :
    IsUnsigned (if body.contains '.' then body else body ++ ['.', '0']) := by
  cases h with
  | whole digits =>
    have hpoint : ¬body.contains '.' = true := by
      rw [List.contains_iff_mem]
      exact point_not_mem digits.isDigits
    rw [if_neg hpoint]
    exact ⟨body, ['.', '0'], [], by simp, digits, .point ⟨by simp, by simp⟩, .absent⟩
  | @point ds fraction digits behind =>
    have hpoint : (ds ++ '.' :: fraction).contains '.' = true := by simp
    rw [if_pos hpoint]
    exact ⟨ds, '.' :: fraction, [], by simp, digits, .point behind, .absent⟩

end Gatehouse.Json

namespace Gatehouse.Binary64

open Decimal (IsDigits IsLeading)
open Json (IsWhole IsPositional IsUnsigned IsNumber)

/-- Zeros are digits. -/
theorem isDigit_of_mem_zeros {n : Nat} : ∀ c ∈ List.replicate n '0', c.isDigit = true := by
  intro c hc
  obtain rfl := List.eq_of_mem_replicate hc
  rfl

/-- Digits that begin with no zero, with a point at their place and zeros up to it, are a number. -/
theorem isPositional_of_isLeading {d : Digits} (h : IsLeading d.digits) : IsPositional d.positional := by
  unfold Digits.positional
  split_ifs with hplace hlength
  · refine @IsPositional.point ['0'] _ .zero ⟨?_, ?_⟩
    · intro c hc
      exact (List.mem_append.1 hc).elim (isDigit_of_mem_zeros c) (h.isDigit c)
    · intro hnil
      exact h.ne_nil (List.append_eq_nil_iff.1 hnil).2
  · refine .whole (.leading ⟨⟨?_, ?_⟩, ?_⟩)
    · intro c hc
      exact (List.mem_append.1 hc).elim (h.isDigit c) (isDigit_of_mem_zeros c)
    · intro hnil
      exact h.ne_nil (List.append_eq_nil_iff.1 hnil).1
    · rw [List.head?_append_of_ne_nil _ h.ne_nil]
      exact h.head?_ne
  · -- The point stands inside the digits: some stand before it, and some are left behind it.
    have hbefore : 0 < d.place.toNat := by omega
    have hbehind : d.place.toNat < d.digits.length := by omega
    exact .point (.leading (h.take hbefore)) (h.toIsDigits.drop hbehind)

/-- The digits that are written for a number other than zero, with a point at their place, are a number. -/
theorem isPositional_shortest {mantissa : Nat} (h : 0 < mantissa) (exponent : Int) :
    IsPositional (shortest mantissa exponent).positional := by
  rcases digits_shortest h exponent with hzero | hleading
  · rw [hzero]
    exact .whole .zero
  · exact isPositional_of_isLeading hleading

/-- A number without its sign is a number with its sign. -/
theorem isNumber_signed (negative : Bool) {body : List Char} (h : IsUnsigned body) :
    IsNumber (if negative then '-' :: body else body) := by
  cases negative with
  | false => exact .positive h
  | true => exact .negative h

/-- What is written for a finite number without an exponent is a number, with a point and a sign if it is negative. -/
theorem isNumber_pointedText (negative : Bool) (mantissa : Nat) (exponent : Int) :
    IsNumber (finite negative mantissa exponent).pointedText.toList := by
  have hbody : IsPositional (if mantissa = 0 then ['0'] else (shortest mantissa exponent).positional) := by
    split_ifs with hzero
    · exact .whole .zero
    · exact isPositional_shortest (Nat.pos_of_ne_zero hzero) exponent
  have hpointed := isNumber_signed negative (Json.isUnsigned_pointed hbody)
  unfold pointedText positionalText
  dsimp only
  generalize (if mantissa = 0 then ['0'] else (shortest mantissa exponent).positional) = body at hpointed ⊢
  -- The sign is no point, so that it does not matter whether it is there when the point is looked for.
  have hsign : (if negative then '-' :: body else body).contains '.' = body.contains '.' := by
    cases negative with
    | false => rfl
    | true => rfl
  rw [String.toList_ofList, hsign]
  cases hpoint : body.contains '.' with
  | true =>
    rw [hpoint, if_pos rfl] at hpointed
    rw [if_pos rfl, String.toList_ofList]
    exact hpointed
  | false =>
    have happend : (String.ofList (if negative then '-' :: body else body) ++ ".0").toList =
        if negative then '-' :: (body ++ ['.', '0']) else body ++ ['.', '0'] := by
      rw [String.toList_append, String.toList_ofList]
      cases negative with
      | false => rfl
      | true => rfl
    rw [hpoint, if_neg Bool.false_ne_true] at hpointed
    rw [if_neg Bool.false_ne_true, happend]
    exact hpointed

/-- What is written for a finite number is a number. -/
theorem isNumber_scientificText (negative : Bool) (mantissa : Nat) (exponent : Int) :
    IsNumber (finite negative mantissa exponent).scientificText.toList := by
  unfold scientificText
  dsimp only
  by_cases hzero : mantissa = 0
  · rw [if_pos hzero]
    exact isNumber_pointedText negative mantissa exponent
  rw [if_neg hzero]
  have hshortest := digits_shortest (Nat.pos_of_ne_zero hzero) exponent
  generalize shortest mantissa exponent = d at hshortest ⊢
  by_cases hplace : (decide (-5 < d.place) && decide (d.place ≤ 16)) = true
  · rw [if_pos hplace]
    exact isNumber_pointedText negative mantissa exponent
  rw [if_neg hplace, String.toList_ofList]
  have hleading : IsLeading d.digits := by
    rcases hshortest with rfl | hleading
    · exact absurd rfl hplace
    · exact hleading
  have hfirst : IsWhole (d.digits.take 1) := .leading (hleading.take Nat.one_pos)
  have hpower : IsDigits (if (Nat.toDigits 10 (d.place - 1).natAbs).length < 2
      then '0' :: Nat.toDigits 10 (d.place - 1).natAbs else Nat.toDigits 10 (d.place - 1).natAbs) := by
    have hdigits := Decimal.isDigits_toDigits (d.place - 1).natAbs
    split_ifs
    · exact ⟨List.forall_mem_cons.2 ⟨rfl, hdigits.isDigit⟩, List.cons_ne_nil _ _⟩
    · exact hdigits
  refine isNumber_signed negative ⟨d.digits.take 1, _, _, List.append_assoc _ _ _, hfirst, ?_, ?_⟩
  · split_ifs with hlength
    · exact .absent
    · exact .point (hleading.toIsDigits.drop (Nat.not_le.1 hlength))
  · refine .signed (Or.inl rfl) ?_ hpower
    split_ifs
    · exact Or.inr rfl
    · exact Or.inl rfl

end Gatehouse.Binary64
