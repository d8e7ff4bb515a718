import Mathlib
import Gatehouse.Decimal.Reading

/-!
# What reads as a number

A whole number is read from the digits that write it (`int64?_toString`). A text that reads as a number has no other
characters than numbers have, or it is a word (`isNumeric_or_word_of_float?`).
-/

namespace Gatehouse.Decimal

variable {s : List Char}

/-! ## Whole numbers -/

/-- The digits that write a number are read as that number. -/
theorem digits?_toDigits (n : Nat) : digits? (Nat.toDigits 10 n) = some n := by
  have hdigit : (Nat.toDigits 10 n).all Char.isDigit = true :=
    List.all_eq_true.2 fun c hc => Nat.isDigit_of_mem_toDigits (by decide) (by decide) hc
  have hvalue : ∀ (ds : List Char) (k : Nat),
      ds.foldl (fun n c => n * 10 + (c.toNat - '0'.toNat)) k = Nat.ofDigitChars 10 ds k := by
    intro ds
    induction ds with
    | nil => exact fun k => rfl
    | cons c ds ih =>
      intro k
      rw [List.foldl_cons, ih, Nat.ofDigitChars_cons, Nat.mul_comm]
  have hnonempty : (Nat.toDigits 10 n).isEmpty = false := List.isEmpty_eq_false_iff.2 Nat.toDigits_ne_nil
  rw [digits?, hdigit, hnonempty, hvalue, Nat.ofDigitChars_ten_toDigits]
  rfl

/-- A text that begins with no sign has none. -/
theorem sign_cons {c : Char} (hplus : c ≠ '+') (hminus : c ≠ '-') (rest : List Char) :
    sign (c :: rest) = (false, c :: rest) := by
  unfold sign
  split
  next heq => exact absurd (List.cons.inj heq).1 hminus
  next heq => exact absurd (List.cons.inj heq).1 hplus
  next => rfl

/-- The digits that write a number do not begin with a sign. -/
theorem sign_toDigits (n : Nat) : sign (Nat.toDigits 10 n) = (false, Nat.toDigits 10 n) := by
  cases hds : Nat.toDigits 10 n with
  | nil => rfl
  | cons c ds =>
    have hc : c.isDigit = true :=
      Nat.isDigit_of_mem_toDigits (n := n) (by decide) (by decide) (hds ▸ List.mem_cons_self)
    refine sign_cons ?_ ?_ ds
    · rintro rfl
      cases hc
    · rintro rfl
      cases hc

/-- A whole number is read from the text that writes it. -/
theorem integer?_toString (n : Int) : integer? (toString n).toList = some n := by
  cases n with
  | ofNat n =>
    have htext : (toString (Int.ofNat n)).toList = Nat.toDigits 10 n := by
      change (toString n).toList = _
      rw [Nat.toString_eq_ofList_toDigits, String.toList_ofList]
    rw [htext, integer?, sign_toDigits, digits?_toDigits]
    rfl
  | negSucc n =>
    have htext : (toString (Int.negSucc n)).toList = '-' :: Nat.toDigits 10 (n + 1) := by
      change ("-" ++ toString (n + 1)).toList = _
      rw [String.toList_append, Nat.toString_eq_ofList_toDigits]
      exact congrArg ('-' :: ·) String.toList_ofList
    rw [htext, integer?, sign, digits?_toDigits]
    rfl

/-- A number of 64 bits is read from the text that writes it. -/
theorem int64?_toString {n : Int} (h : isInt64 n = true) : int64? (toString n).toList = some n := by
  rw [int64?, integer?_toString, Option.bind_some, if_pos h]

/-! ## The characters of a number -/

/-- A character that numbers are written with. -/
def isNumeric (c : Char) : Bool := c.isDigit || c ∈ ['+', '-', '.', 'e', 'E']

/-- The words that are read as numbers. -/
def words : List String := ["nan", "inf", "infinity"]

/-- Only digits are read as digits. -/
theorem isDigit_of_digits? {n : Nat} (h : digits? s = some n) : ∀ c ∈ s, c.isDigit = true := by
  unfold digits? at h
  split_ifs at h with hs
  exact List.all_eq_true.1 (Bool.and_eq_true_iff.1 hs).2

/-- A text is what follows its sign, perhaps after a sign. -/
theorem mem_of_sign {c : Char} (h : c ∈ s) : c = '+' ∨ c = '-' ∨ c ∈ (sign s).2 := by
  unfold sign
  split
  next =>
    rcases List.mem_cons.1 h with rfl | h
    · exact Or.inr (Or.inl rfl)
    · exact Or.inr (Or.inr h)
  next =>
    rcases List.mem_cons.1 h with rfl | h
    · exact Or.inl rfl
    · exact Or.inr (Or.inr h)
  next => exact Or.inr (Or.inr h)

/-- The characters of a text with a sign are those that numbers are written with if those after the sign are. -/
theorem isNumeric_of_sign (h : ∀ c ∈ (sign s).2, isNumeric c = true) : ∀ c ∈ s, isNumeric c = true := by
  intro c hc
  rcases mem_of_sign hc with rfl | rfl | hc
  · rfl
  · rfl
  · exact h c hc

/-- A digit is a character that numbers are written with. -/
theorem isNumeric_of_isDigit {c : Char} (h : c.isDigit = true) : isNumeric c = true := by
  rw [isNumeric, h, Bool.true_or]

/-- Of the characters of numbers only the capital letter changes in lower case. -/
theorem lowerAscii_of_isNumeric {c : Char} (h : isNumeric c = true) :
    Text.lowerAscii c = c ∨ c = 'E' ∧ Text.lowerAscii c = 'e' := by
  rcases Bool.or_eq_true_iff.1 h with hdigit | hmark
  · left
    have hle : c.val ≤ 57 := by
      simp only [Char.isDigit, Bool.and_eq_true, decide_eq_true_eq] at hdigit
      exact hdigit.2
    refine if_neg fun hletter => ?_
    have hA : 65 ≤ c.val := hletter.1
    exact absurd (UInt32.le_trans hA hle) (by decide)
  · simp only [decide_eq_true_eq, List.mem_cons, List.not_mem_nil, or_false] at hmark
    rcases hmark with rfl | rfl | rfl | rfl | rfl
    · exact Or.inl rfl
    · exact Or.inl rfl
    · exact Or.inl rfl
    · exact Or.inl rfl
    · exact Or.inr ⟨rfl, rfl⟩

/-- The letters that truth values begin with are in no number. -/
theorem isNumeric_eq_false_of_lowerAscii {c : Char} (h : Text.lowerAscii c = 't' ∨ Text.lowerAscii c = 'f') :
    isNumeric c = false := by
  by_contra hc
  have hnumeric : isNumeric c = true := Bool.not_eq_false _ ▸ hc
  rcases lowerAscii_of_isNumeric hnumeric with hsame | ⟨-, he⟩
  · rw [hsame] at h
    rcases h with rfl | rfl
    · cases hnumeric
    · cases hnumeric
  · rw [he] at h
    exact absurd h (by decide)

/-- What reads as a whole number has the characters of numbers. -/
theorem isNumeric_of_integer? {n : Int} (h : integer? s = some n) : ∀ c ∈ s, isNumeric c = true := by
  unfold integer? at h
  cases hm : digits? (sign s).2 with
  | none =>
    rw [hm] at h
    cases h
  | some m => exact isNumeric_of_sign fun c hc => isNumeric_of_isDigit (isDigit_of_digits? hm c hc)

/-- What is left of a list after its longest start that passes a test is nothing, or begins with an element that fails
it. -/
theorem drop_takeWhile {α : Type} (p : α → Bool) (s : List α) :
    s = s.takeWhile p ++ s.drop (s.takeWhile p).length ∧
      ∀ c ∈ (s.drop (s.takeWhile p).length).head?, p c = false := by
  induction s with
  | nil => simp
  | cons c s ih =>
    cases hc : p c with
    | true => simpa [List.takeWhile_cons_of_pos hc] using ih
    | false => simp [hc]

/-- What reads as an unsigned number has digits, apart from a point, and perhaps a mark and an exponent behind them. -/
theorem parts_of_unsigned? {negative : Bool} {x : Binary64} (h : unsigned? negative s = some x) :
    ∃ mantissa rest, s = mantissa ++ rest ∧
      (∃ n, digits? (mantissa.takeWhile (· ≠ '.') ++ mantissa.drop ((mantissa.takeWhile (· ≠ '.')).length + 1)) =
        some n) ∧
      ∀ mark power, rest = mark :: power → (mark = 'e' ∨ mark = 'E') ∧ ∃ n, integer? power = some n := by
  obtain ⟨hs, hmark⟩ := drop_takeWhile (fun c : Char => !(decide (c = 'e') || decide (c = 'E'))) s
  refine ⟨_, _, hs, ?_⟩
  simp only [unsigned?, Option.bind_eq_bind] at h
  generalize s.takeWhile (fun c : Char => !(decide (c = 'e') || decide (c = 'E'))) = mantissa at h hmark
  cases hrest : s.drop mantissa.length with
  | nil =>
    simp only [hrest, Option.bind_some] at h
    split_ifs at h
    obtain ⟨n, hn, -⟩ := Option.bind_eq_some_iff.1 h
    exact ⟨⟨n, hn⟩, nofun⟩
  | cons mark power =>
    simp only [hrest] at h hmark
    obtain ⟨n, hpower, h⟩ := Option.bind_eq_some_iff.1 h
    split_ifs at h
    obtain ⟨m, hm, -⟩ := Option.bind_eq_some_iff.1 h
    refine ⟨⟨m, hm⟩, ?_⟩
    rintro _ _ ⟨rfl⟩
    refine ⟨?_, n, hpower⟩
    simpa [or_iff_not_imp_left] using hmark

/-- What reads as an unsigned number has the characters of numbers. -/
theorem isNumeric_of_unsigned? {negative : Bool} {x : Binary64} (h : unsigned? negative s = some x) :
    ∀ c ∈ s, isNumeric c = true := by
  obtain ⟨mantissa, rest, rfl, ⟨n, hn⟩, hrest⟩ := parts_of_unsigned? h
  obtain ⟨hmantissa, hpoint⟩ := drop_takeWhile (fun c : Char => decide (c ≠ '.')) mantissa
  intro c hc
  rcases List.mem_append.1 hc with hc | hc
  · have hdigit := isDigit_of_digits? hn
    rw [hmantissa] at hc
    rcases List.mem_append.1 hc with hc | hc
    · exact isNumeric_of_isDigit (hdigit c (List.mem_append_left _ hc))
    · rw [← List.tail_drop] at hdigit
      cases hfraction : mantissa.drop (mantissa.takeWhile fun c => decide (c ≠ '.')).length with
      | nil =>
        rw [hfraction] at hc
        cases hc
      | cons point fraction =>
        rw [hfraction] at hc hdigit hpoint
        rcases List.mem_cons.1 hc with rfl | hc
        · obtain rfl : c = '.' := by simpa using hpoint
          rfl
        · exact isNumeric_of_isDigit (hdigit c (List.mem_append_right _ hc))
  · cases rest with
    | nil => cases hc
    | cons mark power =>
      obtain ⟨hmark, n, hpower⟩ := hrest mark power rfl
      rcases List.mem_cons.1 hc with rfl | hc
      · rcases hmark with rfl | rfl
        · rfl
        · rfl
      · exact isNumeric_of_integer? hpower c hc

/-- What reads as a number has the characters of numbers, or it is a word for one after the sign. -/
theorem isNumeric_or_word_of_float? {x : Binary64} (h : float? s = some x) :
    (∀ c ∈ s, isNumeric c = true) ∨ String.ofList ((sign s).2.map Text.lowerAscii) ∈ words := by
  simp only [float?] at h
  split_ifs at h with hnan hinf
  · exact Or.inr (hnan ▸ by decide)
  · rcases Bool.or_eq_true_iff.1 hinf with hinf | hinf
    · exact Or.inr (of_decide_eq_true hinf ▸ by decide)
    · exact Or.inr (of_decide_eq_true hinf ▸ by decide)
  · exact Or.inl (isNumeric_of_sign (isNumeric_of_unsigned? h))

/-- A text with another character than numbers have, and that is no word for a number, reads as no number. -/
theorem eq_none_of_not_isNumeric {c : Char} (hc : c ∈ s) (hnumeric : isNumeric c = false)
    (hword : String.ofList ((sign s).2.map Text.lowerAscii) ∉ words) : int64? s = none ∧ float? s = none := by
  constructor
  · refine Option.eq_none_iff_forall_ne_some.2 fun n hn => ?_
    obtain ⟨m, hm, -⟩ := Option.bind_eq_some_iff.1 hn
    rw [isNumeric_of_integer? hm c hc] at hnumeric
    cases hnumeric
  · refine Option.eq_none_iff_forall_ne_some.2 fun x hx => ?_
    rcases isNumeric_or_word_of_float? hx with h | h
    · rw [h c hc] at hnumeric
      cases hnumeric
    · exact hword h

end Gatehouse.Decimal
