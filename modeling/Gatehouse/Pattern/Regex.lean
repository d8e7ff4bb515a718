import Gatehouse.Pattern.CharSet

/-!
# Regular expressions

Expressions over characters, with assertions about the place between two characters. An expression is matched by the
set of what may still follow: `remainders` are the expressions that the rest of a text may match after one
character, and `holdsHere` says that nothing need follow. Both look at the neighbouring characters, where assertions
are decided, so that expressions with and without assertions are matched in one way.
-/

namespace Gatehouse.Pattern

/-- What can be asserted of the place between two characters. -/
inductive Assertion
  | textStart
  | textEnd
  /-- With `crlf`, a carriage return ends a line too, and a line feed after it belongs to it. -/
  | lineStart (crlf : Bool)
  | lineEnd (crlf : Bool)
  /-- With `ascii`, words are made of ASCII characters alone. -/
  | wordEdge (ascii : Bool)
  | noWordEdge (ascii : Bool)
  | wordStart (ascii : Bool)
  | wordEnd (ascii : Bool)
  | wordStartHalf (ascii : Bool)
  | wordEndHalf (ascii : Bool)
  deriving DecidableEq

/-- Whether a character belongs to a word; there is none at the ends of the text. -/
def inWord (ascii : Bool) (c : Option Char) : Bool :=
  c.any (if ascii then CharSet.asciiWord else CharSet.word).contains

/-- Whether an assertion holds between two characters; there is none at the ends of the text. -/
def Assertion.holds (a : Assertion) (before after : Option Char) : Bool :=
  match a with
  | .textStart => before.isNone
  | .textEnd => after.isNone
  | .lineStart crlf => before.isNone || before = some '\n' || (crlf && before = some '\r' && after ≠ some '\n')
  | .lineEnd false => after.isNone || after = some '\n'
  | .lineEnd true => after.isNone || after = some '\r' || (after = some '\n' && before ≠ some '\r')
  | .wordEdge ascii => inWord ascii before != inWord ascii after
  | .noWordEdge ascii => inWord ascii before == inWord ascii after
  | .wordStart ascii => !inWord ascii before && inWord ascii after
  | .wordEnd ascii => inWord ascii before && !inWord ascii after
  | .wordStartHalf ascii => !inWord ascii before
  | .wordEndHalf ascii => !inWord ascii after

/-- A regular expression. -/
inductive Regex
  /-- Matches nothing. -/
  | never
  /-- Matches the empty text. -/
  | empty
  | set (s : CharSet)
  | look (a : Assertion)
  | cat (r s : Regex)
  | alt (r s : Regex)
  | star (r : Regex)
  deriving DecidableEq

namespace Regex

/-- Whether the expression matches the empty text between two characters. -/
def holdsHere (before after : Option Char) : Regex → Bool
  | never => false
  | empty => true
  | set _ => false
  | look a => a.holds before after
  | cat r s => r.holdsHere before after && s.holdsHere before after
  | alt r s => r.holdsHere before after || s.holdsHere before after
  | star _ => true

/-- One expression after another, where the first may be done. -/
def andThen : Regex → Regex → Regex
  | empty, s => s
  | r, s => cat r s

/-- What may follow the character `c` in a match that begins with it, after the character `before`. -/
def remainders (before : Option Char) (c : Char) : Regex → List Regex
  | never => []
  | empty => []
  | set s => if s.contains c then [empty] else []
  | look _ => []
  | cat r s =>
    (r.remainders before c).map (·.andThen s)
      ++ (if r.holdsHere before (some c) then s.remainders before c else [])
  | alt r s => r.remainders before c ++ s.remainders before c
  | star r => (r.remainders before c).map (·.andThen (star r))

/-- Adds an expression to a list without repetitions. -/
def insertNew (r : Regex) (rs : List Regex) : List Regex := if r ∈ rs then rs else r :: rs

/-- The expressions of a list, each once. -/
def distinct (rs : List Regex) : List Regex := rs.foldr insertNew []

/-- Whether one of the expressions matches a start of the text, or `r` matches somewhere in it; `before` is the
character before the text. -/
def search (r : Regex) (before : Option Char) (waiting : List Regex) (s : List Char) : Bool :=
  let waiting := insertNew r waiting
  match s with
  | [] => waiting.any (holdsHere before none)
  | c :: rest =>
    waiting.any (holdsHere before (some c))
      || search r (some c) (distinct (waiting.flatMap (remainders before c))) rest

/-- Whether the expression matches somewhere in a text. -/
def isMatch (r : Regex) (s : List Char) : Bool := search r none [] s

/-- The expressions one after another. -/
def sequence : List Regex → Regex
  | [] => empty
  | [r] => r
  | r :: rs => cat r (sequence rs)

/-- One of the expressions. -/
def oneOf : List Regex → Regex
  | [] => never
  | [r] => r
  | r :: rs => alt r (oneOf rs)

/-- The expression, `n` times. -/
def times (r : Regex) : Nat → Regex
  | 0 => empty
  | n + 1 => if n = 0 then r else cat r (times r n)

/-- The expression, up to `n` times. -/
def upTo (r : Regex) : Nat → Regex
  | 0 => empty
  | n + 1 => alt empty (cat r (upTo r n))

/-- The expression, once or more. -/
def plus (r : Regex) : Regex := cat r (star r)

/-- The expression or nothing. -/
def optional (r : Regex) : Regex := alt empty r

/-- A number of states that an automaton for the expression has at least: one for each character on a longest way
without repetitions. -/
def leastStates : Regex → Nat
  | never | empty | look _ | star _ => 0
  | set _ => 1
  | cat r s => r.leastStates + s.leastStates
  | alt r s => max r.leastStates s.leastStates

end Regex

end Gatehouse.Pattern
