import Mathlib
import Gatehouse.Pattern.Key
import Gatehouse.Proofs.Pattern.Matching

/-!
# Patterns of paths

A pattern of a path is written part by part: plain text, a placeholder for one segment, or a star for any ending without
a line feed. The paths that match it are those made of texts for its parts, each after a slash
(`matchesColons_pathPattern_iff`); so such a pattern always makes an expression, and what a placeholder is called does
not matter.
-/

namespace Gatehouse.Pattern

/-- A part of a path pattern. -/
inductive Part
  | text (s : List Char)
  | placeholder (name : List Char)
  | star

/-- The characters that stand for themselves in every pattern. -/
def isPlain (c : Char) : Bool :=
  c ∉ ['\\', '^', '$', '.', '|', '?', '*', '+', '(', ')', '[', ']', '{', '}', '/', ':']

namespace Part

/-- A part as it is written. -/
def chars : Part → List Char
  | text s => s
  | placeholder name => ':' :: name
  | star => ['*']

/-- A part with its star opened. -/
def opened : Part → List Char
  | star => ['.', '*']
  | p => p.chars

/-- What may be written in a part. -/
def Plain : Part → Prop
  | text s => ∀ c ∈ s, isPlain c = true
  | placeholder name => '/' ∉ name
  | star => True

instance (p : Part) : Decidable p.Plain :=
  match p with
  | .text s => decidable_of_iff (s.all isPlain = true) List.all_eq_true
  | .placeholder name => inferInstanceAs (Decidable ('/' ∉ name))
  | .star => inferInstanceAs (Decidable True)

/-- The texts that a part stands for. -/
def Fits : Part → List Char → Prop
  | text s, u => u = s
  | placeholder _, u => u ≠ [] ∧ '/' ∉ u
  | star, u => '\n' ∉ u

/-- The regular expression that a part is turned into, as text. -/
def expression : Part → List Char
  | text s => s
  | placeholder _ => segment
  | star => ['.', '*']

/-- The regular expressions that a part is turned into, one after another. -/
def regexes : Part → List Regex
  | text s => s.map fun c => .set (.single c)
  | placeholder _ => [Regex.plus (.set (.compl (.union (.runs []) (.single '/'))))]
  | star => [.star (.set (.compl (.single '\n')))]

end Part

/-- The pattern that is written from some parts. -/
def pathPattern (parts : List Part) : List Char := parts.flatMap fun p => '/' :: p.chars

/-- A path is made of texts for some parts, each after a slash. -/
def FitsAll : List Part → List Char → Prop
  | [], path => path = []
  | p :: parts, path => ∃ u v, path = '/' :: (u ++ v) ∧ p.Fits u ∧ FitsAll parts v

/-! ## From patterns to expressions -/

section Rewriting

variable {s rest : List Char} {parts : List Part}

/-- A pattern is empty or begins with a slash. -/
theorem pathPattern_cases (parts : List Part) :
    pathPattern parts = [] ∨ ∃ s, pathPattern parts = '/' :: s := by
  cases parts with
  | nil => exact Or.inl rfl
  | cons p parts => exact Or.inr ⟨p.chars ++ pathPattern parts, rfl⟩

/-- Stars are only looked for after slashes. -/
theorem openStars_append (hs : '/' ∉ s) (rest : List Char) : openStars (s ++ rest) = s ++ openStars rest := by
  induction s with
  | nil => rfl
  | cons c s ih =>
    rw [List.mem_cons, not_or] at hs
    rw [List.cons_append, openStars, ih hs.2, List.cons_append]
    rintro _ rfl
    exact absurd rfl hs.1

/-- A slash without a star behind it stays. -/
theorem openStars_slash (hs : s.head? ≠ some '*') : openStars ('/' :: s) = '/' :: openStars s := by
  rw [openStars]
  rintro _ - rfl
  exact hs rfl

/-- A plain character has no meaning. -/
theorem ne_of_isPlain {c : Char} (h : isPlain c = true) :
    c ≠ '\\' ∧ c ≠ '^' ∧ c ≠ '$' ∧ c ≠ '.' ∧ c ≠ '|' ∧ c ≠ '?' ∧ c ≠ '*' ∧ c ≠ '+' ∧ c ≠ '(' ∧ c ≠ ')' ∧ c ≠ '[' ∧
      c ≠ ']' ∧ c ≠ '{' ∧ c ≠ '}' ∧ c ≠ '/' ∧ c ≠ ':' := by
  simpa [isPlain, not_or] using h

/-- Plain text outside a placeholder stays. -/
theorem replaceColons_append (hs : ∀ c ∈ s, isPlain c = true) (rest : List Char) :
    replaceColons false (s ++ rest) = s ++ replaceColons false rest := by
  induction s with
  | nil => rfl
  | cons c s ih =>
    obtain ⟨hc, hs⟩ := List.forall_mem_cons.1 hs
    have hne := ne_of_isPlain hc
    rw [List.cons_append, replaceColons, ih hs]
    simp [hne]

/-- The rest of a placeholder is dropped. -/
theorem replaceColons_name (hs : '/' ∉ s) (rest : List Char) :
    replaceColons true (s ++ rest) = replaceColons true rest := by
  induction s with
  | nil => rfl
  | cons c s ih =>
    rw [List.mem_cons, not_or] at hs
    rw [List.cons_append, replaceColons, if_neg (Ne.symm hs.1), if_pos rfl, ih hs.2]

/-- A placeholder ends with its part. -/
theorem replaceColons_inside (h : s = [] ∨ ∃ rest, s = '/' :: rest) : replaceColons true s = replaceColons false s := by
  obtain rfl | ⟨rest, rfl⟩ := h
  · rfl
  · rw [replaceColons, replaceColons, if_pos rfl, if_pos rfl]

/-- A part is opened where it stands. -/
theorem openStars_part {p : Part} (hp : p.Plain) (parts : List Part) :
    openStars ('/' :: (p.chars ++ pathPattern parts)) = '/' :: (p.opened ++ openStars (pathPattern parts)) := by
  cases p with
  | star => rfl
  | placeholder name =>
    have hname : '/' ∉ ':' :: name := by
      rw [List.mem_cons, not_or]
      exact ⟨by decide, hp⟩
    rw [openStars_slash (by simp [Part.chars]), Part.chars, openStars_append hname]
    rfl
  | text s =>
    have hslash : '/' ∉ s := fun hmem => absurd (hp _ hmem) (by decide)
    have hhead : (s ++ pathPattern parts).head? ≠ some '*' := by
      cases s with
      | nil =>
        obtain h | ⟨rest, h⟩ := pathPattern_cases parts
        · simp [h]
        · simp [h]
      | cons c s =>
        have hc := ne_of_isPlain (hp c List.mem_cons_self)
        simp [hc]
    rw [Part.chars, openStars_slash hhead, openStars_append hslash]
    rfl

/-- An opened part becomes an expression. -/
theorem replaceColons_part {p : Part} (hp : p.Plain) (hs : s = [] ∨ ∃ rest, s = '/' :: rest) :
    replaceColons false ('/' :: (p.opened ++ s)) = '/' :: (p.expression ++ replaceColons false s) := by
  rw [replaceColons, if_pos rfl]
  cases p with
  | star => rfl
  | placeholder name =>
    change '/' :: (segment ++ replaceColons true (name ++ s)) = _
    rw [replaceColons_name hp, replaceColons_inside hs]
    rfl
  | text t =>
    rw [Part.opened, Part.chars, replaceColons_append hp]
    · rfl
    · nofun

/-- The text of the expression that some parts are turned into. -/
def pathExpression (parts : List Part) : List Char := parts.flatMap fun p => '/' :: p.expression

/-- A pattern is rewritten part by part. -/
theorem replaceColons_pathPattern (h : ∀ p ∈ parts, p.Plain) :
    replaceColons false (openStars (pathPattern parts)) = pathExpression parts := by
  induction parts with
  | nil => rfl
  | cons p parts ih =>
    obtain ⟨hp, hparts⟩ := List.forall_mem_cons.1 h
    have hnext : openStars (pathPattern parts) = [] ∨ ∃ rest, openStars (pathPattern parts) = '/' :: rest := by
      cases parts with
      | nil => exact Or.inl rfl
      | cons q parts =>
        exact Or.inr ⟨_, openStars_part (hparts q List.mem_cons_self) parts⟩
    have hfirst := openStars_part hp parts
    change openStars (pathPattern (p :: parts)) = _ at hfirst
    rw [hfirst, replaceColons_part hp hnext, ih hparts]
    rfl

/-- The regular expressions that some parts are turned into, one after another. -/
def pathRegexes (parts : List Part) : List Regex := parts.flatMap fun p => .set (.single '/') :: p.regexes

end Rewriting

/-! ## Reading the expression -/

namespace Syntax

variable {n : Nat} {r : Nested Regex} {s rest : List Char} {names : List (List Char)}
  {done current : List (Nested Regex)} {c : Char}

/-- A part as it is read. -/
def pieces : Part → List (Nested Regex)
  | .text s => s.map fun c => .flat (.set (.single c))
  | .placeholder _ => [⟨Regex.plus (.set (.compl (.union (.runs []) (.single '/')))), 2⟩]
  | .star => [⟨.star (.set (.compl (.single '\n'))), 1⟩]

/-- Some parts as they are read, each after a slash. -/
def pathPieces (parts : List Part) : List (Nested Regex) :=
  parts.flatMap fun p => .flat (.set (.single '/')) :: pieces p

/-- Parts are read as the expressions that they are turned into. -/
theorem value_pathPieces (parts : List Part) : (pathPieces parts).map Nested.value = pathRegexes parts := by
  unfold pathPieces pathRegexes
  rw [List.map_flatMap]
  congr 1
  funext p
  cases p with
  | text s => simp [pieces, Part.regexes, Nested.flat]
  | placeholder name => rfl
  | star => rfl

/-- What is read of a part has two levels at most. -/
theorem depth_le_of_mem_pathPieces {parts : List Part} (h : r ∈ pathPieces parts) : r.depth ≤ 2 := by
  obtain ⟨p, -, hr⟩ := List.mem_flatMap.1 h
  obtain rfl | hr := List.mem_cons.1 hr
  · exact Nat.zero_le 2
  cases p with
  | text s =>
    obtain ⟨c, -, rfl⟩ := List.mem_map.1 hr
    exact Nat.zero_le 2
  | placeholder name =>
    obtain rfl := List.mem_singleton.1 hr
    exact le_rfl
  | star =>
    obtain rfl := List.mem_singleton.1 hr
    exact Nat.le_succ 1

/-- Some parts have one level more than the deepest of them at most. -/
theorem jointDepth_le {depths : List Nat} (h : ∀ depth ∈ depths, depth ≤ n) : jointDepth depths ≤ n + 1 := by
  match depths, h with
  | [], _ => exact Nat.zero_le _
  | [depth], h => exact Nat.le_succ_of_le (h depth List.mem_cons_self)
  | first :: second :: depths, h => exact Nat.succ_le_succ (List.max_le_of_forall_le _ n h)

/-- The expression that some parts are read as, between the two anchors. -/
def joinedPath (parts : List Part) : Nested Regex :=
  .join .sequence (.flat (.look .textStart) :: (pathPieces parts ++ [.flat (.look .textEnd)]))

/-- The parts are joined to the sequence of the expressions that they are turned into. -/
theorem value_joinedPath (parts : List Part) :
    (joinedPath parts).value = .sequence (.look .textStart :: (pathRegexes parts ++ [.look .textEnd])) := by
  rw [← value_pathPieces]
  simp [joinedPath, Nested.join, Nested.flat]

/-- The sequence of the parts is a level, with two in it at most, so that it is not nested too deep. -/
theorem depth_joinedPath_le (parts : List Part) : (joinedPath parts).depth ≤ depthLimit := by
  have hdepth : (joinedPath parts).depth ≤ 3 := by
    refine jointDepth_le fun depth hmem => ?_
    obtain ⟨r, hr, rfl⟩ := List.mem_map.1 hmem
    rw [List.mem_cons, List.mem_append, List.mem_singleton] at hr
    obtain rfl | hr | rfl := hr
    · exact Nat.zero_le 2
    · exact depth_le_of_mem_pathPieces hr
    · exact Nat.zero_le 2
  exact hdepth.trans (by decide)

/-- A text begins with a sign of repetition. -/
def Repeats : List Char → Prop
  | [] => False
  | c :: _ => c ∈ ['*', '+', '?', '{']

/-- Blanks count, if the mode does not say otherwise. -/
theorem skipSpace_default (n : Nat) (s : List Char) : skipSpace {} n s = s := by
  cases n <;> rfl

/-- An expression without a sign of repetition stands once. -/
theorem readRepeats_once (h : ¬Repeats s) : readRepeats {} (n + 1) r s = some (r, s) := by
  rw [readRepeats, skipSpace_default]
  split
  · exact absurd (by simp [Repeats]) h
  · exact absurd (by simp [Repeats]) h
  · exact absurd (by simp [Repeats]) h
  · exact absurd (by simp [Repeats]) h
  · rfl

/-- A star repeats any number of times. -/
theorem readRepeats_star (h : ¬Repeats s) : readRepeats {} (n + 2) r ('*' :: s) = some (r.within .star, s) := by
  rw [readRepeats, skipSpace_default]
  simp only [skipSpace_default]
  split
  · exact absurd (by simp [Repeats]) h
  · exact readRepeats_once h

/-- A plus repeats once or more. -/
theorem readRepeats_plus (h : ¬Repeats s) : readRepeats {} (n + 2) r ('+' :: s) = some (r.within .plus, s) := by
  rw [readRepeats, skipSpace_default]
  simp only [skipSpace_default]
  split
  · exact absurd (by simp [Repeats]) h
  · exact readRepeats_once h

/-- An atom is read with the repetition behind it. -/
theorem readAlternatives_atom {r' : Nested Regex} (hne : s.head? ∉ [none, some ')', some '|', some '('])
    (hatom : readSimpleAtom {} n s = some (r, rest)) {rest' : List Char}
    (hrepeats : readRepeats {} n r rest = some (r', rest')) :
    readAlternatives (n + 1) {} names done current s = readAlternatives n {} names done (r' :: current) rest' := by
  rw [readAlternatives, skipSpace_default]
  split
  · simp at hne
  · simp at hne
  · simp at hne
  · simp at hne
  · rw [hatom]
    dsimp only
    rw [hrepeats]

/-- A plain character or a slash is an atom. -/
theorem readSimpleAtom_char (hc : isPlain c = true ∨ c = '/') :
    readSimpleAtom {} n (c :: rest) = some (.flat (.set (.single c)), rest) := by
  obtain hc | rfl := hc
  · have hne := ne_of_isPlain hc
    simp [readSimpleAtom, hne, charSet, Mode.fold]
  · rfl

/-- The class of a placeholder is an atom. -/
theorem readSimpleAtom_segment :
    readSimpleAtom {} (n + 3) ('[' :: '^' :: '/' :: ']' :: rest) =
      some (⟨.set (.compl (.union (.runs []) (.single '/'))), 1⟩, rest) := by
  rfl

/-- Plain text brings no sign of repetition. -/
theorem not_repeats_append (hs : ∀ c ∈ s, isPlain c = true) (hrest : ¬Repeats rest) : ¬Repeats (s ++ rest) := by
  cases s with
  | nil => exact hrest
  | cons c s =>
    have hc := ne_of_isPlain (hs c List.mem_cons_self)
    simp [Repeats, hc]

/-- A part brings no sign of repetition. -/
theorem not_repeats_part {p : Part} (hp : p.Plain) (hrest : ¬Repeats rest) : ¬Repeats (p.expression ++ rest) := by
  cases p with
  | text s => exact not_repeats_append hp hrest
  | placeholder name => simp [Part.expression, segment, Repeats]
  | star => simp [Part.expression, Repeats]

/-- What follows a part of a path is no sign of repetition. -/
theorem not_repeats_pathExpression (parts : List Part) : ¬Repeats (pathExpression parts ++ ['$']) := by
  cases parts with
  | nil => simp [pathExpression, Repeats]
  | cons p parts => simp [pathExpression, Repeats]

/-- Plain text is read character by character. -/
theorem readAlternatives_text (hs : ∀ c ∈ s, isPlain c = true) (hrest : ¬Repeats rest) :
    readAlternatives (n + 1 + s.length) {} names done current (s ++ rest) =
      readAlternatives (n + 1) {} names done ((pieces (.text s)).reverse ++ current) rest := by
  induction s generalizing current with
  | nil => rfl
  | cons c s ih =>
    obtain ⟨hc, hs⟩ := List.forall_mem_cons.1 hs
    have hhead : (c :: (s ++ rest)).head? ∉ [none, some ')', some '|', some '('] := by
      have hne := ne_of_isPlain hc
      simp [hne]
    have hfuel : n + 1 + s.length = n + s.length + 1 := by omega
    have hrepeats : readRepeats {} (n + 1 + s.length) (.flat (.set (.single c))) (s ++ rest) =
        some (.flat (.set (.single c)), s ++ rest) := by
      rw [hfuel]
      exact readRepeats_once (not_repeats_append hs hrest)
    rw [List.length_cons, ← Nat.add_assoc, List.cons_append,
      readAlternatives_atom hhead (readSimpleAtom_char (Or.inl hc)) hrepeats, ih hs]
    simp [pieces]

/-- A part is read in at most as many steps as it has characters. -/
theorem readAlternatives_part {p : Part} {fuel : Nat} (hp : p.Plain) (hrest : ¬Repeats rest)
    (hfuel : p.expression.length + n + 2 ≤ fuel) :
    ∃ left, n + 2 ≤ left ∧ readAlternatives fuel {} names done current (p.expression ++ rest) =
      readAlternatives left {} names done ((pieces p).reverse ++ current) rest := by
  cases p with
  | text s =>
    obtain ⟨k, rfl⟩ := Nat.exists_eq_add_of_le hfuel
    have hsplit : s.length + n + 2 + k = n + k + 1 + 1 + s.length := by omega
    refine ⟨n + k + 1 + 1, by omega, ?_⟩
    change readAlternatives (s.length + n + 2 + k) {} names done current (s ++ rest) = _
    rw [hsplit]
    exact readAlternatives_text hp hrest
  | placeholder name =>
    have hlength : segment.length = 5 := rfl
    change segment.length + n + 2 ≤ fuel at hfuel
    obtain ⟨k, rfl⟩ : ∃ k, fuel = k + 3 + 1 := ⟨fuel - 4, by omega⟩
    exact ⟨k + 3, by omega, readAlternatives_atom (by simp) readSimpleAtom_segment (readRepeats_plus hrest)⟩
  | star =>
    change 2 + n + 2 ≤ fuel at hfuel
    obtain ⟨k, rfl⟩ : ∃ k, fuel = k + 2 + 1 := ⟨fuel - 3, by omega⟩
    exact ⟨k + 2, by omega, readAlternatives_atom (by simp [Part.expression]) rfl (readRepeats_star hrest)⟩

/-- The expression of some parts is read part by part, up to the anchor at its end. -/
theorem readAlternatives_parts {parts : List Part} {fuel : Nat} (h : ∀ p ∈ parts, p.Plain)
    (hfuel : (pathExpression parts).length + 2 ≤ fuel) :
    readAlternatives fuel {} names [] current (pathExpression parts ++ ['$']) =
      some ⟨.join .sequence (current.reverse ++ (pathPieces parts ++ [.flat (.look .textEnd)])), names, []⟩ := by
  -- A placeholder and a star are read in fewer steps than they have characters, so the fuel that is left varies.
  induction parts generalizing fuel current with
  | nil =>
    obtain ⟨k, rfl⟩ := Nat.exists_eq_add_of_le' hfuel
    have hend : readAlternatives (k + 1 + 1) {} names [] current ['$'] =
        readAlternatives (k + 1) {} names [] (.flat (.look .textEnd) :: current) [] :=
      readAlternatives_atom (by simp) rfl (readRepeats_once (by simp [Repeats]))
    refine hend.trans ?_
    rw [readAlternatives, skipSpace_default]
    simp [pathPieces, Nested.join, Regex.oneOf, jointDepth]
  | cons p parts ih =>
    obtain ⟨hp, hparts⟩ := List.forall_mem_cons.1 h
    have hrest := not_repeats_pathExpression parts
    have hexpression : pathExpression (p :: parts) = '/' :: (p.expression ++ pathExpression parts) := rfl
    rw [hexpression, List.length_cons, List.length_append] at hfuel
    obtain ⟨k, rfl⟩ : ∃ k, fuel = k + 1 + 1 := ⟨fuel - 2, by omega⟩
    obtain ⟨left, hleft, hpart⟩ : ∃ left, (pathExpression parts).length + 2 ≤ left ∧
        readAlternatives (k + 1) {} names [] (.flat (.set (.single '/')) :: current)
            (p.expression ++ (pathExpression parts ++ ['$'])) =
          readAlternatives left {} names [] ((pieces p).reverse ++ .flat (.set (.single '/')) :: current)
            (pathExpression parts ++ ['$']) :=
      readAlternatives_part hp hrest (by omega)
    have hslash : readAlternatives (k + 1 + 1) {} names [] current
          ('/' :: (p.expression ++ (pathExpression parts ++ ['$']))) =
        readAlternatives (k + 1) {} names [] (.flat (.set (.single '/')) :: current)
          (p.expression ++ (pathExpression parts ++ ['$'])) :=
      readAlternatives_atom (by simp) (readSimpleAtom_char (Or.inr rfl)) (readRepeats_once (not_repeats_part hp hrest))
    rw [hexpression, List.cons_append, List.append_assoc, hslash, hpart, ih hparts hleft]
    simp [pathPieces]

end Syntax

/-- A pattern that is written from parts makes the expression of these parts, between the two anchors. -/
theorem ofChars?_pathExpression {parts : List Part} (h : ∀ p ∈ parts, p.Plain) :
    Regex.ofChars? ('^' :: pathExpression parts ++ ['$']) =
      some (.sequence (.look .textStart :: (pathRegexes parts ++ [.look .textEnd]))) := by
  have hlength : ('^' :: pathExpression parts ++ ['$']).length + 1 = (pathExpression parts).length + 2 + 1 := by simp
  have hstart : Syntax.readAlternatives ((pathExpression parts).length + 2 + 1) {} [] [] []
        ('^' :: (pathExpression parts ++ ['$'])) =
      Syntax.readAlternatives ((pathExpression parts).length + 2) {} [] [] [.flat (.look .textStart)]
        (pathExpression parts ++ ['$']) :=
    Syntax.readAlternatives_atom (by simp) rfl
      (Syntax.readRepeats_once (Syntax.not_repeats_pathExpression parts))
  unfold Regex.ofChars?
  rw [hlength, List.cons_append, hstart, Syntax.readAlternatives_parts h le_rfl]
  exact (if_pos (Syntax.depth_joinedPath_le parts)).trans (congrArg some (Syntax.value_joinedPath parts))

/-! ## Matching paths -/

section Matching

open Regex

variable {before after : Option Char} {w : List Char}

/-- A set of one character holds this character. -/
theorem CharSet.contains_single {c d : Char} : (CharSet.single c).contains d = true ↔ d = c := by
  simp only [contains, single, containsPoint, Text.inRuns, List.any_cons, List.any_nil, Bool.or_false,
    Bool.and_eq_true, decide_eq_true_eq]
  rw [← Char.toNat_inj]
  omega

/-- The characters of a segment are all but the slash. -/
theorem CharSet.contains_segment {c : Char} :
    (CharSet.compl (.union (.runs []) (.single '/'))).contains c = true ↔ c ≠ '/' := by
  rw [Ne, ← contains_single (c := '/')]
  simp [contains, containsPoint, Text.inRuns]

/-- The characters of an ending are all but the line feed. -/
theorem CharSet.contains_ending {c : Char} : (CharSet.compl (.single '\n')).contains c = true ↔ c ≠ '\n' := by
  rw [Ne, ← contains_single (c := '\n')]
  simp [contains, containsPoint]

/-- A repeated set matches the texts of its characters. -/
theorem matches_star_set_iff {t : CharSet} :
    (star (.set t)).Matches before w after ↔ ∀ c ∈ w, t.contains c = true := by
  induction w generalizing before with
  | nil => exact ⟨fun _ => nofun, fun _ => .done⟩
  | cons c w ih =>
    simp only [matches_star_cons_iff, matches_set_iff, List.forall_mem_cons]
    constructor
    · rintro ⟨u, v, rfl, ⟨d, hu, hd⟩, hv⟩
      obtain ⟨rfl, rfl⟩ := List.cons.inj hu
      exact ⟨hd, ih.1 hv⟩
    · rintro ⟨hc, hw⟩
      exact ⟨[], w, rfl, ⟨c, rfl, hc⟩, ih.2 hw⟩

/-- A set that is repeated once or more matches the texts of its characters that are not empty. -/
theorem matches_plus_set_iff {t : CharSet} :
    (plus (.set t)).Matches before w after ↔ w ≠ [] ∧ ∀ c ∈ w, t.contains c = true := by
  simp only [plus, matches_cat_iff, matches_set_iff, matches_star_set_iff]
  constructor
  · rintro ⟨_, v, rfl, ⟨c, rfl, hc⟩, hv⟩
    exact ⟨nofun, List.forall_mem_cons.2 ⟨hc, hv⟩⟩
  · rintro ⟨hne, hw⟩
    obtain ⟨c, v, rfl⟩ := List.exists_cons_of_ne_nil hne
    obtain ⟨hc, hv⟩ := List.forall_mem_cons.1 hw
    exact ⟨[c], v, rfl, ⟨c, rfl, hc⟩, hv⟩

/-- The expressions of a part match the texts that the part stands for. -/
theorem matches_regexes_iff {p : Part} : (sequence p.regexes).Matches before w after ↔ p.Fits w := by
  cases p with
  | text s =>
    change _ ↔ w = s
    induction s generalizing before w with
    | nil => exact matches_empty_iff
    | cons c s ih =>
      change (sequence (.set (.single c) :: (Part.text s).regexes)).Matches before w after ↔ _
      simp only [matches_sequence_cons_iff, matches_set_iff, CharSet.contains_single, ih]
      simp
  | placeholder name =>
    change (plus _).Matches before w after ↔ w ≠ [] ∧ '/' ∉ w
    simp only [matches_plus_set_iff, CharSet.contains_segment]
    rw [List.forall_mem_ne']
  | star =>
    change (star _).Matches before w after ↔ '\n' ∉ w
    simp only [matches_star_set_iff, CharSet.contains_ending]
    rw [List.forall_mem_ne']

/-- The expressions of some parts match the paths that are made of texts for these parts. -/
theorem matches_pathRegexes_iff {parts : List Part} :
    (sequence (pathRegexes parts)).Matches before w after ↔ FitsAll parts w := by
  induction parts generalizing before w with
  | nil => exact matches_empty_iff
  | cons p parts ih =>
    change (sequence (.set (.single '/') :: (p.regexes ++ pathRegexes parts))).Matches before w after ↔ _
    simp only [matches_sequence_cons_iff, matches_sequence_append_iff, matches_set_iff, CharSet.contains_single,
      matches_regexes_iff, ih]
    constructor
    · rintro ⟨_, _, rfl, ⟨_, rfl, rfl⟩, u, v, rfl, hu, hv⟩
      exact ⟨u, v, rfl, hu, hv⟩
    · rintro ⟨u, v, rfl, hu, hv⟩
      exact ⟨['/'], u ++ v, rfl, ⟨'/', rfl, rfl⟩, u, v, rfl, hu, hv⟩

end Matching

/-- The paths that match a pattern that is written from parts are those made of texts for its parts. -/
theorem matchesColons_pathPattern_iff {parts : List Part} (h : ∀ p ∈ parts, p.Plain) {key : List Char} :
    matchesColons key (pathPattern parts) = some true ↔ FitsAll parts key := by
  rw [matchesColons, matchesWhole, replaceColons_pathPattern h]
  change (Regex.ofChars? _).map (·.isMatch key) = some true ↔ _
  rw [ofChars?_pathExpression h, Option.map_some, Option.some_inj]
  exact Regex.isMatch_anchored.trans matches_pathRegexes_iff

end Gatehouse.Pattern
