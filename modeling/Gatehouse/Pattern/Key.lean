import Gatehouse.Pattern.Engine
import Gatehouse.Text.Utf8

/-!
# Patterns of keys

A key, such as the path of a resource, against a pattern. Patterns come in several notations: a star that stands for
every ending, and paths whose placeholders stand for one segment each. The latter are turned into regular
expressions, so a pattern can also hold what is special there, and a pattern that makes no expression matches
neither way: its answer is `none`.
-/

namespace Gatehouse.Pattern

/-- Whether a key begins with what stands before the first star of a pattern, or is that text; without a star, whether
the two are equal. The cut is made by bytes, and there is no answer when it would divide a character of the key. -/
def matchesStar (key pattern : List Char) : Option Bool :=
  match Text.cutAt? '*' pattern with
  | none => some (key = pattern)
  | some (start, _) =>
    let start := Text.Utf8.encode start
    let bytes := Text.Utf8.encode key
    match bytes.drop start.length with
    | [] => some (bytes = start)
    | next :: _ => if Text.Utf8.isTail next then none else some (bytes.take start.length = start)

/-- A pattern with each star after a slash made one for any text. -/
def openStars : List Char → List Char
  | [] => []
  | '/' :: '*' :: rest => '/' :: '.' :: '*' :: openStars rest
  | c :: rest => c :: openStars rest

/-- The expression for one segment of a path. -/
def segment : List Char := "[^/]+".toList

/-- A pattern whose placeholders, each a colon and the rest of its segment, are expressions for a segment. With
`inside` the reader stands in a placeholder. -/
def replaceColons (inside : Bool) : List Char → List Char
  | [] => []
  | c :: rest =>
    if c = '/' then c :: replaceColons false rest
    else if inside then replaceColons true rest
    else if c = ':' then segment ++ replaceColons true rest
    else c :: replaceColons false rest

/-- The length of the longest text up to a closing brace, the brace included, that holds no slash. -/
def closingBrace? (s : List Char) : Option Nat :=
  let inSegment := s.takeWhile (· ≠ '/')
  let after := (inSegment.reverse.takeWhile (· ≠ '}')).length
  if after = inSegment.length then none else some (inSegment.length - after)

/-- A pattern whose placeholders, each from an opening brace to the last closing one of the segment, are expressions
for a segment. The next `skip` characters belong to a placeholder. -/
def replaceBraces (skip : Nat) : List Char → List Char
  | [] => []
  | c :: rest =>
    match skip with
    | n + 1 => replaceBraces n rest
    | 0 =>
      match (if c = '{' then closingBrace? rest else none) with
      | some n => segment ++ replaceBraces n rest
      | none => c :: replaceBraces 0 rest

/-! ## Matching with an engine -/

variable [RegexEngine]

/-- Whether the whole key matches an expression. -/
def matchesWhole (key pattern : List Char) : Option Bool := findsRegex key ('^' :: pattern ++ ['$'])

/-- Whether a path matches a pattern with `:name` placeholders. -/
def matchesColons (key pattern : List Char) : Option Bool :=
  matchesWhole key (replaceColons false (openStars pattern))

/-- Whether a path matches a pattern with placeholders in braces. -/
def matchesBraces (key pattern : List Char) : Option Bool := matchesWhole key (replaceBraces 0 (openStars pattern))

/-- Whether a path, its query left out, matches a pattern with placeholders in braces. -/
def matchesBracesBeforeQuery (key pattern : List Char) : Option Bool :=
  matchesBraces (key.takeWhile (· ≠ '?')) pattern

end Gatehouse.Pattern
