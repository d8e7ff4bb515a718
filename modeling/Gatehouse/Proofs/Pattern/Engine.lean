import Mathlib
import Gatehouse.Proofs.Pattern.Path

/-!
# Patterns and engines

Which patterns make expressions, and what these match, is up to the engine for regular expressions. Statements about
patterns are made of every engine, by whether a pattern compiles (`Compiles`) and by the answer for a path
(`matchesColons`). Where the empty pattern stands in for rules that are not there, one thing is relied on: with nothing
between the two anchors an engine finds the empty key alone (`LawfulRegexEngine`). This is so for the reader and the
search of this library.
-/

namespace Gatehouse.Pattern

/-- An engine for which a circumflex and a dollar sign are the two ends of a key. -/
class LawfulRegexEngine [RegexEngine] : Prop where
  findsRegex_anchors : ∀ key : List Char, findsRegex key ['^', '$'] = some key.isEmpty

section Engine

variable [RegexEngine]

/-- Whether a pattern with `:name` placeholders makes a regular expression. -/
def Compiles (pattern : String) : Prop :=
  (RegexEngine.compile? ('^' :: replaceColons false (openStars pattern.toList) ++ ['$'])).isSome = true

instance (pattern : String) : Decidable (Compiles pattern) := inferInstanceAs (Decidable (_ = true))

variable {pattern : String}

/-- Whether a path matches a pattern that makes an expression has an answer. -/
theorem Compiles.exists_matched (h : Compiles pattern) (path : List Char) :
    ∃ matched, matchesColons path pattern.toList = some matched := by
  obtain ⟨r, hr⟩ := Option.isSome_iff_exists.1 h
  refine ⟨RegexEngine.isMatch r path, ?_⟩
  unfold matchesColons matchesWhole findsRegex
  rw [hr]
  rfl

/-- A pattern that makes no expression has no answer for any path. -/
theorem matchesColons_of_not_compiles (h : ¬Compiles pattern) (path : List Char) :
    matchesColons path pattern.toList = none := by
  unfold matchesColons matchesWhole findsRegex
  rw [Option.not_isSome_iff_eq_none.1 h]
  rfl

variable [LawfulRegexEngine]

/-- The empty pattern is for the empty path. -/
theorem matchesColons_empty (path : List Char) : matchesColons path "".toList = some path.isEmpty :=
  LawfulRegexEngine.findsRegex_anchors path

/-- The empty pattern makes an expression. -/
theorem compiles_empty : Compiles "" := by
  by_contra h
  have hnone := matchesColons_of_not_compiles h []
  rw [matchesColons_empty] at hnone
  cases hnone

end Engine

/-- The anchors of the expressions that are read here are the two ends of a key. -/
instance : LawfulRegexEngine where
  findsRegex_anchors key := by
    have hread : Regex.ofChars? ['^', '$'] = some (.sequence [.look .textStart, .look .textEnd]) :=
      @ofChars?_pathExpression [] nofun
    change (Regex.ofChars? ['^', '$']).map (·.isMatch key) = some key.isEmpty
    rw [hread, Option.map_some, Option.some_inj, Bool.eq_iff_iff, List.isEmpty_iff]
    exact (@Regex.isMatch_anchored [] key).trans Regex.matches_empty_iff

/-- A pattern that is written from parts makes an expression when it is read here. -/
theorem compiles_pathPattern {parts : List Part} (h : ∀ p ∈ parts, p.Plain) :
    Compiles (String.ofList (pathPattern parts)) := by
  rw [Compiles, String.toList_ofList, replaceColons_pathPattern h]
  change (Regex.ofChars? _).isSome = true
  rw [ofChars?_pathExpression h]
  rfl

end Gatehouse.Pattern
