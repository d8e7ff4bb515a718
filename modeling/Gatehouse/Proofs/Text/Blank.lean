import Mathlib
import Gatehouse.Text.Blank

/-!
# Texts cut at a character, blank texts, and words

A text is cut at the first occurrence of a separator exactly when it has one (`cutAt?_eq_some_iff`). The pieces of a
text between separators hold none, and put together again they are the text (`splitOn_pieces`). The first word of a text
stands behind nothing but blanks and goes on to the next blank or to the end (`words_eq_cons_iff`).
-/

namespace Gatehouse.Text

/-- A text is cut into what stands before and after the first separator. -/
theorem cutAt?_eq_some_iff {separator : Char} {s before after : List Char} :
    cutAt? separator s = some (before, after) ↔ s = before ++ separator :: after ∧ separator ∉ before := by
  have hspan := List.span_eq_takeWhile_dropWhile (p := fun c => decide (c ≠ separator)) (l := s)
  have happend := List.takeWhile_append_dropWhile (p := fun c => decide (c ≠ separator)) (l := s)
  unfold cutAt?
  rw [hspan]
  constructor
  · intro h
    cases hd : s.dropWhile (fun c => decide (c ≠ separator)) with
    | nil =>
      rw [hd] at h
      cases h
    | cons c rest =>
      rw [hd] at h happend
      obtain ⟨rfl, rfl⟩ := Prod.mk.inj (Option.some.inj h)
      have hc := List.head_dropWhile_not (p := fun c => decide (c ≠ separator)) (l := s)
        (by rw [hd]; exact List.cons_ne_nil _ _)
      simp only [hd, List.head_cons, decide_eq_false_iff_not, not_not] at hc
      subst hc
      exact ⟨happend.symm, fun hmem => by simpa using List.mem_takeWhile_imp hmem⟩
  · rintro ⟨rfl, hs⟩
    have hall : ∀ c ∈ before, decide (c ≠ separator) = true := by
      intro c hc
      rw [decide_eq_true_eq]
      rintro rfl
      exact hs hc
    rw [List.takeWhile_append_of_pos hall, List.dropWhile_append_of_pos hall]
    simp

/-- Nothing of a text is left without the blanks around it exactly when all of it is blank. -/
theorem trim_isEmpty_iff {s : List Char} : (trim s).isEmpty = true ↔ ∀ c ∈ s, isBlank c = true := by
  rw [List.isEmpty_iff, trim, trimEnd, List.reverse_eq_nil_iff, List.dropWhile_eq_nil_iff, trimStart]
  constructor
  · intro h
    by_cases hnil : s.dropWhile isBlank = []
    · exact List.dropWhile_eq_nil_iff.1 hnil
    · -- The first character that is left would be blank and not blank.
      have hfirst := List.head_dropWhile_not isBlank hnil
      have hblank := h _ (List.mem_reverse.2 (List.head_mem hnil))
      rw [hfirst] at hblank
      cases hblank
  · intro h c hc
    rw [List.dropWhile_eq_nil_iff.2 h] at hc
    cases hc

/-- The lower case of the ASCII alphabet. -/
theorem lowerAscii_eq_toLower (c : Char) : lowerAscii c = c.toLower := by
  have hletter : ('A' ≤ c ∧ c ≤ 'Z') ↔ (c.val ≥ 'A'.val ∧ c.val ≤ 'Z'.val) := Iff.rfl
  unfold lowerAscii Char.toLower
  simp only [hletter]
  split_ifs with h
  · obtain ⟨-, hlast⟩ := h
    have hsum : (c.val + ('a'.val - 'A'.val)).toNat = c.toNat + 32 := by
      rw [UInt32.le_iff_toNat_le] at hlast
      have hsmall : c.val.toNat ≤ 90 := hlast
      rw [UInt32.toNat_add]
      change (c.val.toNat + 32) % 2 ^ 32 = c.val.toNat + 32
      omega
    rw [← hsum]
    exact Char.ofNat_toNat ⟨c.val + ('a'.val - 'A'.val), _⟩
  · rfl

/-! ## Pieces -/

section Pieces

variable {α : Type} {separates : α → Bool}

/-- Every list has a piece. -/
theorem exists_cons_splitWhen (separates : α → Bool) (s : List α) :
    ∃ piece pieces, splitWhen separates s = piece :: pieces := by
  cases s with
  | nil => exact ⟨_, _, rfl⟩
  | cons c s =>
    rw [splitWhen]
    split_ifs
    · exact ⟨_, _, rfl⟩
    · split
      · exact ⟨_, _, rfl⟩
      · exact ⟨_, _, rfl⟩

/-- A list that begins with a separator has an empty piece before the pieces of the rest; any other element belongs to
the first piece. -/
theorem splitWhen_cons {s piece : List α} {pieces : List (List α)} (h : splitWhen separates s = piece :: pieces)
    (c : α) :
    splitWhen separates (c :: s) = if separates c then [] :: piece :: pieces else (c :: piece) :: pieces := by
  rw [splitWhen, h]

/-- A list without separators is its only piece. -/
theorem splitWhen_of_forall {s : List α} (h : ∀ c ∈ s, separates c = false) : splitWhen separates s = [s] := by
  induction s with
  | nil => rfl
  | cons c s ih =>
    rw [splitWhen_cons (ih fun d hd => h d (List.mem_cons_of_mem c hd)), h c List.mem_cons_self]
    rfl

/-- The first piece ends at the first separator. -/
theorem splitWhen_append_cons {piece : List α} (h : ∀ c ∈ piece, separates c = false) {c : α} (hc : separates c = true)
    (rest : List α) : splitWhen separates (piece ++ c :: rest) = piece :: splitWhen separates rest := by
  induction piece with
  | nil =>
    obtain ⟨first, pieces, hs⟩ := exists_cons_splitWhen separates rest
    rw [List.nil_append, splitWhen_cons hs, if_pos hc, hs]
  | cons d piece ih =>
    rw [List.cons_append, splitWhen_cons (ih fun e he => h e (List.mem_cons_of_mem d he)), h d List.mem_cons_self]
    rfl

end Pieces

/-- A text without the separator is its only piece. -/
theorem splitOn_of_not_mem {separator : Char} {s : List Char} (h : separator ∉ s) : splitOn separator s = [s] := by
  refine splitWhen_of_forall fun c hc => ?_
  rw [beq_eq_false_iff_ne]
  rintro rfl
  exact h hc

/-- The first piece of a text ends at the first separator. -/
theorem splitOn_append_cons {separator : Char} {piece : List Char} (h : separator ∉ piece) (rest : List Char) :
    splitOn separator (piece ++ separator :: rest) = piece :: splitOn separator rest := by
  refine splitWhen_append_cons (fun c hc => ?_) ?_ rest
  · rw [beq_eq_false_iff_ne]
    rintro rfl
    exact h hc
  · exact beq_self_eq_true separator

/-- The pieces of a text, put together, are the text, and none of them has a separator. -/
theorem splitOn_pieces (separator : Char) (s : List Char) :
    [separator].intercalate (splitOn separator s) = s ∧ ∀ piece ∈ splitOn separator s, separator ∉ piece := by
  induction s with
  | nil => simp [splitOn, splitWhen]
  | cons c s ih =>
    unfold splitOn at ih ⊢
    obtain ⟨piece, pieces, hs⟩ := exists_cons_splitWhen (· == separator) s
    rw [hs] at ih
    rw [splitWhen_cons hs]
    split_ifs with h
    · obtain rfl := beq_iff_eq.1 h
      rw [List.intercalate_cons_cons, ih.1]
      refine ⟨rfl, ?_⟩
      intro p hp
      rcases List.mem_cons.1 hp with rfl | hp
      · exact List.not_mem_nil
      · exact ih.2 p hp
    · refine ⟨?_, ?_⟩
      · rw [List.intercalate_cons_cons_left, ih.1]
      · intro p hp
        have hc : ¬separator = c := fun e => h (beq_iff_eq.2 e.symm)
        rcases List.mem_cons.1 hp with rfl | hp
        · exact fun hm => (List.mem_cons.1 hm).elim hc (ih.2 piece List.mem_cons_self)
        · exact ih.2 p (List.mem_cons_of_mem _ hp)

/-- A text has three pieces exactly when two separators stand in it, between texts without one. -/
theorem splitOn_eq_three_iff {separator : Char} {s first second third : List Char} :
    splitOn separator s = [first, second, third] ↔
      s = first ++ separator :: (second ++ separator :: third) ∧
        separator ∉ first ∧ separator ∉ second ∧ separator ∉ third := by
  constructor
  · intro h
    have hp := splitOn_pieces separator s
    rw [h] at hp
    refine ⟨?_, hp.2 first (by simp), hp.2 second (by simp), hp.2 third (by simp)⟩
    rw [← hp.1]
    simp [List.intercalate_cons_cons]
  · rintro ⟨rfl, h1, h2, h3⟩
    rw [splitOn_append_cons h1, splitOn_append_cons h2, splitOn_of_not_mem h3]

/-! ## Words -/

/-- Blanks and nothing else. -/
def AllBlank (s : List Char) : Prop := ∀ c ∈ s, isBlank c = true

/-- A word: some characters, and no blank among them. -/
structure IsWord (s : List Char) : Prop where
  ne_nil : s ≠ []
  not_blank : ∀ c ∈ s, isBlank c = false

/-- A word may end before a text: nothing follows, or a blank and anything behind it. -/
def EndsWord (rest : List Char) : Prop := rest = [] ∨ ∃ c more, rest = c :: more ∧ isBlank c = true

/-- Nothing is blank. -/
theorem allBlank_nil : AllBlank [] := fun _ hc => absurd hc List.not_mem_nil

/-- A blank before blanks. -/
theorem AllBlank.cons {c : Char} {s : List Char} (hc : isBlank c = true) (hs : AllBlank s) : AllBlank (c :: s) := by
  intro d hd
  rcases List.mem_cons.1 hd with rfl | hd
  · exact hc
  · exact hs d hd

/-- A word ends before blanks. -/
theorem AllBlank.endsWord {s : List Char} (h : AllBlank s) : EndsWord s := by
  cases s with
  | nil => exact Or.inl rfl
  | cons c s => exact Or.inr ⟨c, s, rfl, h c List.mem_cons_self⟩

/-- One character is a word if it is not blank. -/
theorem isWord_singleton {c : Char} (h : isBlank c = false) : IsWord [c] := by
  refine ⟨List.cons_ne_nil c [], ?_⟩
  intro d hd
  rw [List.mem_singleton.1 hd]
  exact h

/-- A word is longer by a character before it that is not blank. -/
theorem IsWord.cons {c : Char} {word : List Char} (hc : isBlank c = false) (hword : IsWord word) :
    IsWord (c :: word) := by
  refine ⟨List.cons_ne_nil c word, ?_⟩
  intro d hd
  rcases List.mem_cons.1 hd with rfl | hd
  · exact hc
  · exact hword.not_blank d hd

/-- A word does not end before its own first character. -/
theorem IsWord.not_endsWord {word : List Char} (hword : IsWord word) (rest : List Char) :
    ¬EndsWord (word ++ rest) := by
  obtain ⟨c, tail, rfl⟩ := List.exists_cons_of_ne_nil hword.ne_nil
  rintro (hnil | ⟨d, more, hmore, hd⟩)
  · cases hnil
  · obtain ⟨rfl, -⟩ := List.cons.inj hmore
    have hc := hword.not_blank c List.mem_cons_self
    rw [hd] at hc
    cases hc

/-- Blanks before a text do not change its words. -/
theorem words_append_of_allBlank {lead : List Char} (h : AllBlank lead) (s : List Char) :
    words (lead ++ s) = words s := by
  induction lead with
  | nil => rfl
  | cons c lead ih =>
    have hnone : ∀ d ∈ ([] : List Char), isBlank d = false := fun d hd => absurd hd List.not_mem_nil
    have hc : splitWhen isBlank (c :: (lead ++ s)) = [] :: splitWhen isBlank (lead ++ s) :=
      splitWhen_append_cons hnone (h c List.mem_cons_self) _
    have hrest := ih fun d hd => h d (List.mem_cons_of_mem c hd)
    rw [List.cons_append, ← hrest]
    unfold words
    rw [hc]
    rfl

/-- A text of blanks has no words. -/
theorem words_of_allBlank {s : List Char} (h : AllBlank s) : words s = [] := by
  have hwords := words_append_of_allBlank h []
  rw [List.append_nil] at hwords
  rw [hwords]
  rfl

/-- A word at the beginning of a text is its first word, if it ends there. -/
theorem words_append_of_isWord {word rest : List Char} (hword : IsWord word) (hends : EndsWord rest) :
    words (word ++ rest) = word :: words rest := by
  have hkept (pieces : List (List Char)) :
      (word :: pieces).filter (!·.isEmpty) = word :: pieces.filter (!·.isEmpty) :=
    List.filter_cons_of_pos (by simp [hword.ne_nil])
  rcases hends with rfl | ⟨c, more, rfl, hc⟩
  · rw [List.append_nil]
    unfold words
    rw [splitWhen_of_forall hword.not_blank, hkept]
    rfl
  · have hmore : words (c :: more) = words more := words_append_of_allBlank (allBlank_nil.cons hc) more
    rw [hmore]
    unfold words
    rw [splitWhen_append_cons hword.not_blank hc, hkept]

/-- A text is blank, or it has a first word: blanks before it, and behind it an end or a blank. -/
theorem allBlank_or_exists_word (s : List Char) :
    AllBlank s ∨ ∃ lead word rest, s = lead ++ (word ++ rest) ∧ AllBlank lead ∧ IsWord word ∧ EndsWord rest := by
  induction s with
  | nil => exact Or.inl allBlank_nil
  | cons c s ih =>
    cases hc : isBlank c with
    | true =>
      rcases ih with hs | ⟨lead, word, rest, rfl, hlead, hword, hends⟩
      · exact Or.inl (hs.cons hc)
      · exact Or.inr ⟨c :: lead, word, rest, rfl, hlead.cons hc, hword, hends⟩
    | false =>
      rcases ih with hs | ⟨lead, word, rest, rfl, hlead, hword, hends⟩
      · exact Or.inr ⟨[], [c], s, rfl, allBlank_nil, isWord_singleton hc, hs.endsWord⟩
      · -- The first word begins with `c`: it goes on in the next word unless blanks stand in between.
        cases lead with
        | nil => exact Or.inr ⟨[], c :: word, rest, rfl, allBlank_nil, hword.cons hc, hends⟩
        | cons d lead =>
          have hd : EndsWord (d :: lead ++ (word ++ rest)) := Or.inr ⟨d, _, rfl, hlead d List.mem_cons_self⟩
          exact Or.inr ⟨[], [c], _, rfl, allBlank_nil, isWord_singleton hc, hd⟩

/-- The first word of a text stands behind blanks and before an end or a blank, and the other words are those of what
follows. -/
theorem words_eq_cons_iff {s word : List Char} {others : List (List Char)} :
    words s = word :: others ↔
      ∃ lead rest, s = lead ++ (word ++ rest) ∧ AllBlank lead ∧ IsWord word ∧ EndsWord rest ∧ words rest = others := by
  constructor
  · intro h
    rcases allBlank_or_exists_word s with hs | ⟨lead, first, rest, rfl, hlead, hfirst, hends⟩
    · rw [words_of_allBlank hs] at h
      cases h
    · rw [words_append_of_allBlank hlead, words_append_of_isWord hfirst hends] at h
      obtain ⟨rfl, hothers⟩ := List.cons.inj h
      exact ⟨lead, rest, rfl, hlead, hfirst, hends, hothers⟩
  · rintro ⟨lead, rest, rfl, hlead, hword, hends, rfl⟩
    rw [words_append_of_allBlank hlead, words_append_of_isWord hword hends]

end Gatehouse.Text
