import Gatehouse.Text.Blank
import Gatehouse.Text.Quoted
import Gatehouse.Text.Table.Digit
import Gatehouse.Text.Table.Folding
import Gatehouse.Text.Table.Word

/-!
# Sets of characters

The sets that the classes of regular expressions denote, as expressions: runs of code points and the operations on
them. A folded set also holds the characters that differ from its members in case alone, of all alphabets or among the
ASCII letters.
-/

namespace Gatehouse.Pattern

/-- A set of characters. -/
inductive CharSet
  | runs (rs : List (Nat × Nat))
  | digits
  | blanks
  | word
  | compl (s : CharSet)
  | union (s t : CharSet)
  | inter (s t : CharSet)
  | folded (s : CharSet)
  | foldedAscii (s : CharSet)
  deriving DecidableEq

/-- Whether a run of the folding table holds a code point. -/
def inFoldRun (r : Text.Table.FoldRun) (n : Nat) : Bool :=
  r.first ≤ n && n ≤ r.last && (n - r.first) % r.step = 0

/-- The code point that one is folded to. -/
def foldPoint (n : Nat) : Nat :=
  match Text.Table.foldRuns.find? (inFoldRun · n) with
  | some r => (n + r.offset).toNat
  | none => n

/-- The code points that are folded to one, and itself. -/
def unfoldPoint (n : Nat) : List Nat :=
  n :: Text.Table.foldRuns.filterMap fun r =>
    let m := ((n : Int) - r.offset).toNat
    if inFoldRun r m then some m else none

/-- The code points that differ from one in case alone, and itself. -/
def caseVariants (n : Nat) : List Nat := n :: unfoldPoint (foldPoint n)

/-- The code point of an ASCII letter in the other case; any other code point is left alone. -/
def otherAsciiCase (n : Nat) : Nat :=
  if 0x41 ≤ n ∧ n ≤ 0x5A then n + 0x20 else if 0x61 ≤ n ∧ n ≤ 0x7A then n - 0x20 else n

namespace CharSet

/-- Membership of a code point. -/
def containsPoint : CharSet → Nat → Bool
  | runs rs, n => Text.inRuns rs n
  | digits, n => Text.inRuns Text.Table.digitRanges n
  | blanks, n => Text.isBlank (Char.ofNat n)
  | word, n => Text.inRuns Text.Table.wordRanges n
  | compl s, n => !s.containsPoint n
  | union s t, n => s.containsPoint n || t.containsPoint n
  | inter s t, n => s.containsPoint n && t.containsPoint n
  | folded s, n => (caseVariants n).any s.containsPoint
  | foldedAscii s, n => s.containsPoint n || s.containsPoint (otherAsciiCase n)

/-- Membership of a character. -/
def contains (s : CharSet) (c : Char) : Bool := s.containsPoint c.toNat

/-- The set of one character. -/
def single (c : Char) : CharSet := .runs [(c.toNat, c.toNat)]

/-- The ASCII digits. -/
def asciiDigits : CharSet := .runs [(0x30, 0x39)]

/-- The ASCII blanks. -/
def asciiBlanks : CharSet := .runs [(0x09, 0x0D), (0x20, 0x20)]

/-- The ASCII characters of words. -/
def asciiWord : CharSet := .runs [(0x30, 0x39), (0x41, 0x5A), (0x5F, 0x5F), (0x61, 0x7A)]

/-- The characters in one of two sets but not in both. -/
def symmetricDifference (s t : CharSet) : CharSet := .union (.inter s (.compl t)) (.inter t (.compl s))

end CharSet

end Gatehouse.Pattern
