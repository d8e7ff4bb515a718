import Gatehouse.Pattern.Syntax

/-!
# Regular expression engines

Patterns are matched by an engine for regular expressions, which is not part of this library: all that is asked of it
is that it makes expressions of texts, or refuses to, and says whether an expression matches somewhere in a key.
Whatever depends on patterns is defined for every engine. The program runs with the reader and the search that are
defined here.
-/

namespace Gatehouse.Pattern

/-- An engine for regular expressions. -/
class RegexEngine where
  /-- What texts are compiled to. -/
  Expression : Type
  /-- The expression that a text writes, if the engine accepts it. -/
  compile? : List Char → Option Expression
  /-- Whether an expression matches somewhere in a key. -/
  isMatch : Expression → List Char → Bool

instance : RegexEngine := ⟨Regex, Regex.ofChars?, Regex.isMatch⟩

/-- Whether a regular expression, given by its text, matches somewhere in a key. -/
def findsRegex [RegexEngine] (key pattern : List Char) : Option Bool :=
  (RegexEngine.compile? pattern).map (RegexEngine.isMatch · key)

end Gatehouse.Pattern
