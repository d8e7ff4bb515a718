import Mathlib
import Gatehouse.Pattern.Syntax

/-!
# What regular expressions match

`Regex.Matches` says which texts an expression matches between two neighbouring characters, one rule for each way to
build an expression. The search by remainders finds a match somewhere in a text exactly when there is one
(`Regex.isMatch_eq_true_iff`), and an expression between the two anchors matches whole texts
(`Regex.isMatch_anchored`).
-/

namespace Gatehouse.Pattern

namespace Regex

variable {r s : Regex} {before after : Option Char} {c : Char} {w : List Char}

/-- An expression matches a text that stands between two characters; there is none at an end of the whole text. -/
inductive Matches : Regex → (before : Option Char) → List Char → (after : Option Char) → Prop
  | empty {before after : Option Char} : Matches .empty before [] after
  | set {t : CharSet} {c : Char} {before after : Option Char} (h : t.contains c = true) :
      Matches (.set t) before [c] after
  | look {a : Assertion} {before after : Option Char} (h : a.holds before after = true) :
      Matches (.look a) before [] after
  | cat {r s : Regex} {u v : List Char} {before after : Option Char} (hr : Matches r before u (v.head?.or after))
      (hs : Matches s (u.getLast?.or before) v after) : Matches (.cat r s) before (u ++ v) after
  | left {r s : Regex} {w : List Char} {before after : Option Char} (h : Matches r before w after) :
      Matches (.alt r s) before w after
  | right {r s : Regex} {w : List Char} {before after : Option Char} (h : Matches s before w after) :
      Matches (.alt r s) before w after
  | done {r : Regex} {before after : Option Char} : Matches (.star r) before [] after
  | more {r : Regex} {u v : List Char} {before after : Option Char} (hr : Matches r before u (v.head?.or after))
      (hs : Matches (.star r) (u.getLast?.or before) v after) : Matches (.star r) before (u ++ v) after

/-! ## One rule for each expression -/

/-- Nothing is matched where nothing can be. -/
theorem not_matches_never : ¬never.Matches before w after := nofun

/-- The empty expression matches the empty text. -/
theorem matches_empty_iff : empty.Matches before w after ↔ w = [] := by
  constructor
  · rintro ⟨⟩
    rfl
  · rintro rfl
    exact .empty

/-- A set matches one of its characters. -/
theorem matches_set_iff {t : CharSet} : (set t).Matches before w after ↔ ∃ c, w = [c] ∧ t.contains c = true := by
  constructor
  · rintro ⟨⟩
    next c h => exact ⟨c, rfl, h⟩
  · rintro ⟨c, rfl, h⟩
    exact .set h

/-- An assertion matches the empty text where it holds. -/
theorem matches_look_iff {a : Assertion} :
    (look a).Matches before w after ↔ w = [] ∧ a.holds before after = true := by
  constructor
  · rintro ⟨⟩
    next h => exact ⟨rfl, h⟩
  · rintro ⟨rfl, h⟩
    exact .look h

/-- One expression after another matches one text after another. -/
theorem matches_cat_iff :
    (cat r s).Matches before w after ↔
      ∃ u v, w = u ++ v ∧ r.Matches before u (v.head?.or after) ∧ s.Matches (u.getLast?.or before) v after := by
  constructor
  · rintro ⟨⟩
    next u v hr hs => exact ⟨u, v, rfl, hr, hs⟩
  · rintro ⟨u, v, rfl, hr, hs⟩
    exact .cat hr hs

/-- One of two expressions matches what either of them does. -/
theorem matches_alt_iff : (alt r s).Matches before w after ↔ r.Matches before w after ∨ s.Matches before w after := by
  constructor
  · rintro ⟨⟩
    next h => exact Or.inl h
    next h => exact Or.inr h
  · rintro (h | h)
    · exact .left h
    · exact .right h

/-- The last character of a text, or the one before it, counts the first character in when the text has one. -/
theorem getLast?_cons_or (c : Char) (w : List Char) (before : Option Char) :
    (c :: w).getLast?.or before = w.getLast?.or (some c) := by
  rw [List.getLast?_cons]
  cases w.getLast? <;> rfl

/-- A repetition matches a text that is not empty by a first round that is not empty. -/
theorem matches_star_cons_iff :
    (star r).Matches before (c :: w) after ↔
      ∃ u v, w = u ++ v ∧ r.Matches before (c :: u) (v.head?.or after) ∧
        (star r).Matches (u.getLast?.or (some c)) v after := by
  constructor
  · intro h
    -- Rounds that match nothing are passed over: the induction goes to the first that begins with the character.
    generalize ht : star r = t at h
    generalize hx : c :: w = x at h
    induction h with
    | done => cases hx
    | @more r' u v before after hr hs _ ih =>
      obtain rfl := star.inj ht
      cases u with
      | nil => exact ih rfl hx
      | cons d u =>
        obtain ⟨rfl, rfl⟩ := List.cons.inj hx
        rw [getLast?_cons_or] at hs
        exact ⟨u, v, rfl, hr, hs⟩
    | _ => cases ht
  · rintro ⟨u, v, rfl, hr, hs⟩
    rw [← getLast?_cons_or c u before] at hs
    exact .more hr hs

/-! ## Remainders -/

/-- Nothing need follow exactly when the empty text is matched. -/
theorem holdsHere_eq_true_iff : r.holdsHere before after = true ↔ r.Matches before [] after := by
  induction r with
  | never => simp [holdsHere, not_matches_never]
  | empty => simp [holdsHere, matches_empty_iff]
  | set t => simp [holdsHere, matches_set_iff]
  | look a => simp [holdsHere, matches_look_iff]
  | cat r s ihr ihs =>
    rw [holdsHere, Bool.and_eq_true, ihr, ihs, matches_cat_iff]
    constructor
    · rintro ⟨hr, hs⟩
      exact ⟨[], [], rfl, hr, hs⟩
    · rintro ⟨u, v, huv, hr, hs⟩
      obtain ⟨rfl, rfl⟩ := List.append_eq_nil_iff.1 huv.symm
      exact ⟨hr, hs⟩
  | alt r s ihr ihs => rw [holdsHere, Bool.or_eq_true, ihr, ihs, matches_alt_iff]
  | star r _ => exact ⟨fun _ => .done, fun _ => rfl⟩

/-- That an expression may be done before another one does not change what the two match. -/
theorem matches_andThen_iff : (r.andThen s).Matches before w after ↔ (cat r s).Matches before w after := by
  cases r with
  | empty =>
    simp only [andThen, matches_cat_iff, matches_empty_iff]
    constructor
    · intro h
      exact ⟨[], w, rfl, rfl, h⟩
    · rintro ⟨u, v, rfl, rfl, h⟩
      exact h
  | _ => rfl

/-- An expression matches a text with a first character exactly when one of its remainders after that character matches
the rest of the text. -/
theorem matches_cons_iff :
    r.Matches before (c :: w) after ↔ ∃ t ∈ r.remainders before c, t.Matches (some c) w after := by
  induction r generalizing w after with
  | never => simp [remainders, not_matches_never]
  | empty => simp [remainders, matches_empty_iff]
  | set t =>
    rw [remainders, matches_set_iff]
    by_cases h : t.contains c = true
    · rw [if_pos h]
      simp [matches_empty_iff, h]
    · rw [if_neg h]
      simp [h]
  | look a => simp [remainders, matches_look_iff]
  | cat r s ihr ihs =>
    simp only [remainders, List.mem_append, List.mem_map]
    rw [matches_cat_iff]
    constructor
    · rintro ⟨u, v, huv, hr, hs⟩
      cases u with
      | nil =>
        -- The first expression is done before the character.
        obtain rfl : c :: w = v := huv
        obtain ⟨t, ht, hw⟩ := ihs.1 hs
        have hhere : r.holdsHere before (some c) = true := holdsHere_eq_true_iff.2 hr
        exact ⟨t, Or.inr (by rwa [if_pos hhere]), hw⟩
      | cons d u =>
        obtain ⟨rfl, rfl⟩ := List.cons.inj huv
        obtain ⟨t, ht, hu⟩ := ihr.1 hr
        rw [getLast?_cons_or] at hs
        exact ⟨t.andThen s, Or.inl ⟨t, ht, rfl⟩, matches_andThen_iff.2 (.cat hu hs)⟩
    · rintro ⟨t, ⟨t, ht, rfl⟩ | ht, hw⟩
      · obtain ⟨u, v, rfl, hu, hs⟩ := matches_cat_iff.1 (matches_andThen_iff.1 hw)
        rw [← getLast?_cons_or c u before] at hs
        exact ⟨c :: u, v, rfl, ihr.2 ⟨t, ht, hu⟩, hs⟩
      · split_ifs at ht with hhere
        · exact ⟨[], c :: w, rfl, holdsHere_eq_true_iff.1 hhere, ihs.2 ⟨t, ht, hw⟩⟩
        · exact absurd ht List.not_mem_nil
  | alt r s ihr ihs =>
    simp only [remainders, List.mem_append, matches_alt_iff, ihr, ihs]
    constructor
    · rintro (⟨t, ht, hw⟩ | ⟨t, ht, hw⟩)
      · exact ⟨t, Or.inl ht, hw⟩
      · exact ⟨t, Or.inr ht, hw⟩
    · rintro ⟨t, ht | ht, hw⟩
      · exact Or.inl ⟨t, ht, hw⟩
      · exact Or.inr ⟨t, ht, hw⟩
  | star r ihr =>
    simp only [remainders, List.mem_map]
    rw [matches_star_cons_iff]
    constructor
    · rintro ⟨u, v, rfl, hr, hs⟩
      obtain ⟨t, ht, hu⟩ := ihr.1 hr
      exact ⟨t.andThen (star r), ⟨t, ht, rfl⟩, matches_andThen_iff.2 (.cat hu hs)⟩
    · rintro ⟨_, ⟨t, ht, rfl⟩, hw⟩
      obtain ⟨u, v, rfl, hu, hs⟩ := matches_cat_iff.1 (matches_andThen_iff.1 hw)
      exact ⟨u, v, rfl, ihr.2 ⟨t, ht, hu⟩, hs⟩

/-! ## Searching -/

/-- An expression matches a beginning of a text. -/
def Begins (r : Regex) (before : Option Char) (text : List Char) : Prop :=
  ∃ mid post, text = mid ++ post ∧ r.Matches before mid post.head?

/-- An expression matches somewhere in a text. -/
def Occurs (r : Regex) (before : Option Char) (text : List Char) : Prop :=
  ∃ pre rest, text = pre ++ rest ∧ r.Begins (pre.getLast?.or before) rest

/-- In the empty text there is only the empty beginning. -/
theorem begins_nil_iff : r.Begins before [] ↔ r.holdsHere before none = true := by
  rw [holdsHere_eq_true_iff]
  constructor
  · rintro ⟨mid, post, htext, h⟩
    obtain ⟨rfl, rfl⟩ := List.append_eq_nil_iff.1 htext.symm
    exact h
  · intro h
    exact ⟨[], [], rfl, h⟩

/-- A beginning is empty, or its first character is that of the text. -/
theorem begins_cons_iff :
    r.Begins before (c :: w) ↔
      r.holdsHere before (some c) = true ∨ ∃ t ∈ r.remainders before c, t.Begins (some c) w := by
  rw [holdsHere_eq_true_iff]
  constructor
  · rintro ⟨mid, post, htext, h⟩
    cases mid with
    | nil =>
      obtain rfl : c :: w = post := htext
      exact Or.inl h
    | cons d mid =>
      obtain ⟨rfl, rfl⟩ := List.cons.inj htext
      obtain ⟨t, ht, hmid⟩ := matches_cons_iff.1 h
      exact Or.inr ⟨t, ht, mid, post, rfl, hmid⟩
  · rintro (h | ⟨t, ht, mid, post, rfl, hmid⟩)
    · exact ⟨[], c :: w, rfl, h⟩
    · exact ⟨c :: mid, post, rfl, matches_cons_iff.2 ⟨t, ht, hmid⟩⟩

/-- In the empty text an expression can only occur at its end. -/
theorem occurs_nil_iff : r.Occurs before [] ↔ r.Begins before [] := by
  constructor
  · rintro ⟨pre, rest, htext, h⟩
    obtain ⟨rfl, rfl⟩ := List.append_eq_nil_iff.1 htext.symm
    exact h
  · intro h
    exact ⟨[], [], rfl, h⟩

/-- An expression occurs in a text at its beginning or after the first character. -/
theorem occurs_cons_iff : r.Occurs before (c :: w) ↔ r.Begins before (c :: w) ∨ r.Occurs (some c) w := by
  constructor
  · rintro ⟨pre, rest, htext, h⟩
    cases pre with
    | nil =>
      obtain rfl : c :: w = rest := htext
      exact Or.inl h
    | cons d pre =>
      obtain ⟨rfl, rfl⟩ := List.cons.inj htext
      rw [getLast?_cons_or] at h
      exact Or.inr ⟨pre, rest, rfl, h⟩
  · rintro (h | ⟨pre, rest, rfl, h⟩)
    · exact ⟨[], c :: w, rfl, h⟩
    · rw [← getLast?_cons_or c pre before] at h
      exact ⟨c :: pre, rest, rfl, h⟩

/-- An addition to a list without repetitions is in it. -/
theorem mem_insertNew {t : Regex} {rs : List Regex} : t ∈ insertNew r rs ↔ t = r ∨ t ∈ rs := by
  unfold insertNew
  split_ifs with h
  · constructor
    · exact Or.inr
    · rintro (rfl | ht)
      · exact h
      · exact ht
  · exact List.mem_cons

/-- Dropping repetitions drops no expression. -/
theorem mem_distinct {t : Regex} {rs : List Regex} : t ∈ distinct rs ↔ t ∈ rs := by
  induction rs with
  | nil => rfl
  | cons r rs ih => rw [distinct, List.foldr_cons, mem_insertNew, ← distinct, ih, List.mem_cons]

/-- The search finds what begins the text among the waiting expressions, and what occurs in it of the expression. -/
theorem search_eq_true_iff {waiting : List Regex} :
    r.search before waiting w = true ↔ (∃ t ∈ waiting, t.Begins before w) ∨ r.Occurs before w := by
  induction w generalizing before waiting with
  | nil =>
    rw [search, List.any_eq_true, occurs_nil_iff]
    simp only [mem_insertNew, begins_nil_iff]
    constructor
    · rintro ⟨t, rfl | ht, h⟩
      · exact Or.inr h
      · exact Or.inl ⟨t, ht, h⟩
    · rintro (⟨t, ht, h⟩ | h)
      · exact ⟨t, Or.inr ht, h⟩
      · exact ⟨r, Or.inl rfl, h⟩
  | cons c w ih =>
    have hbegins : (∃ t ∈ insertNew r waiting, t.Begins before (c :: w)) ↔
        (∃ t ∈ waiting, t.Begins before (c :: w)) ∨ r.Begins before (c :: w) := by
      simp only [mem_insertNew]
      constructor
      · rintro ⟨t, rfl | ht, h⟩
        · exact Or.inr h
        · exact Or.inl ⟨t, ht, h⟩
      · rintro (⟨t, ht, h⟩ | h)
        · exact ⟨t, Or.inr ht, h⟩
        · exact ⟨r, Or.inl rfl, h⟩
    rw [search, Bool.or_eq_true, List.any_eq_true, ih, occurs_cons_iff, ← or_assoc, ← or_assoc, ← hbegins]
    refine or_congr_left ?_
    simp only [mem_distinct, List.mem_flatMap, begins_cons_iff]
    constructor
    · rintro (⟨t, ht, h⟩ | ⟨t', ⟨t, ht, ht'⟩, h⟩)
      · exact ⟨t, ht, Or.inl h⟩
      · exact ⟨t, ht, Or.inr ⟨t', ht', h⟩⟩
    · rintro ⟨t, ht, h | ⟨t', ht', h⟩⟩
      · exact Or.inl ⟨t, ht, h⟩
      · exact Or.inr ⟨t', ⟨t, ht, ht'⟩, h⟩

/-- An expression matches in a text exactly when it matches a part of the text in its place. -/
theorem isMatch_eq_true_iff {text : List Char} :
    r.isMatch text = true ↔ ∃ pre mid post, text = pre ++ (mid ++ post) ∧ r.Matches pre.getLast? mid post.head? := by
  rw [isMatch, search_eq_true_iff]
  simp only [List.not_mem_nil, false_and, exists_false, false_or, Occurs, Begins, Option.or_none]
  constructor
  · rintro ⟨pre, rest, rfl, mid, post, rfl, h⟩
    exact ⟨pre, mid, post, rfl, h⟩
  · rintro ⟨pre, mid, post, rfl, h⟩
    exact ⟨pre, mid ++ post, rfl, mid, post, rfl, h⟩

/-! ## Sequences -/

/-- A sequence matches by its first expression and the rest. -/
theorem matches_sequence_cons_iff {rs : List Regex} :
    (sequence (r :: rs)).Matches before w after ↔
      ∃ u v, w = u ++ v ∧ r.Matches before u (v.head?.or after) ∧
        (sequence rs).Matches (u.getLast?.or before) v after := by
  cases rs with
  | nil =>
    simp only [sequence, matches_empty_iff]
    constructor
    · intro h
      exact ⟨w, [], (List.append_nil w).symm, h, rfl⟩
    · rintro ⟨u, v, rfl, h, rfl⟩
      rw [List.append_nil]
      exact h
  | cons s rs => exact matches_cat_iff

/-- A sequence in two parts matches a text in two parts. -/
theorem matches_sequence_append_iff {rs ss : List Regex} :
    (sequence (rs ++ ss)).Matches before w after ↔
      ∃ u v, w = u ++ v ∧ (sequence rs).Matches before u (v.head?.or after) ∧
        (sequence ss).Matches (u.getLast?.or before) v after := by
  induction rs generalizing before w with
  | nil =>
    simp only [List.nil_append, sequence, matches_empty_iff]
    constructor
    · intro h
      exact ⟨[], w, rfl, rfl, h⟩
    · rintro ⟨u, v, rfl, rfl, h⟩
      exact h
  | cons r rs ih =>
    simp only [List.cons_append, matches_sequence_cons_iff, ih]
    constructor
    · rintro ⟨u, _, rfl, hu, v, x, rfl, hv, hx⟩
      refine ⟨u ++ v, x, (List.append_assoc u v x).symm, ⟨u, v, rfl, ?_, hv⟩, ?_⟩
      · rwa [List.head?_append, Option.or_assoc] at hu
      · rwa [List.getLast?_append, Option.or_assoc]
    · rintro ⟨_, x, rfl, ⟨u, v, rfl, hu, hv⟩, hx⟩
      refine ⟨u, v ++ x, List.append_assoc u v x, ?_, v, x, rfl, hv, ?_⟩
      · rwa [List.head?_append, Option.or_assoc]
      · rwa [List.getLast?_append, Option.or_assoc] at hx

/-- The start of the text is where no character stands before, and its end where none stands after. -/
theorem holds_textStart_textEnd :
    (Assertion.textStart.holds before after = true ↔ before = none) ∧
      (Assertion.textEnd.holds before after = true ↔ after = none) :=
  ⟨Option.isNone_iff_eq_none, Option.isNone_iff_eq_none⟩

/-- A sequence between the two anchors matches the whole text or nothing. -/
theorem isMatch_anchored {rs : List Regex} {text : List Char} :
    (sequence (look .textStart :: (rs ++ [look .textEnd]))).isMatch text = true ↔
      (sequence rs).Matches none text none := by
  have hlast {u : List Char} {before after : Option Char} :
      (sequence [look .textEnd]).Matches before u after ↔ u = [] ∧ after = none := by
    rw [sequence, matches_look_iff, holds_textStart_textEnd.2]
  rw [isMatch_eq_true_iff]
  simp only [matches_sequence_cons_iff, matches_sequence_append_iff, matches_look_iff, holds_textStart_textEnd.1, hlast]
  constructor
  · rintro ⟨pre, _, post, rfl, _, _, rfl, ⟨rfl, hpre⟩, u, v, rfl, hu, rfl, hpost⟩
    rw [List.getLast?_eq_none_iff] at hpre
    rw [List.head?_eq_none_iff] at hpost
    subst hpre hpost
    simpa using hu
  · intro h
    exact ⟨[], text, [], by simp, [], text, rfl, ⟨rfl, rfl⟩, text, [], by simp, by simpa using h, rfl, rfl⟩

end Regex

end Gatehouse.Pattern
