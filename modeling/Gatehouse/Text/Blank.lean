/-!
# Blank characters

The characters of the Unicode property White_Space, and the texts that they divide: trimming, words, and the
fields between separators. All of it is on lists of characters.
-/

namespace Gatehouse.Text

/-- The property White_Space: the ASCII blanks with U+000B and U+000C, U+0085, and the Unicode spaces. -/
def isBlank (c : Char) : Bool :=
  let n := c.toNat
  (0x09 ≤ n && n ≤ 0x0D) || n = 0x20 || n = 0x85 || n = 0xA0 || n = 0x1680 || (0x2000 ≤ n && n ≤ 0x200A)
    || n = 0x2028 || n = 0x2029 || n = 0x202F || n = 0x205F || n = 0x3000

/-- A text without the blanks at its start. -/
def trimStart (s : List Char) : List Char := s.dropWhile isBlank

/-- A text without the blanks at its end. -/
def trimEnd (s : List Char) : List Char := (s.reverse.dropWhile isBlank).reverse

/-- A text without the blanks around it. -/
def trim (s : List Char) : List Char := trimEnd (trimStart s)

/-- The pieces of a list between the elements that `separates` holds of; there is always at least one. -/
def splitWhen (separates : α → Bool) : List α → List (List α)
  | [] => [[]]
  | c :: rest =>
    if separates c then [] :: splitWhen separates rest
    else
      match splitWhen separates rest with
      | [] => [[c]]
      | piece :: pieces => (c :: piece) :: pieces

/-- The pieces of a list between occurrences of one element. -/
def splitOn [BEq α] (separator : α) (s : List α) : List (List α) := splitWhen (· == separator) s

/-- The words of a text: its longest stretches without blanks. -/
def words (s : List Char) : List (List Char) := (splitWhen isBlank s).filter (!·.isEmpty)

/-- A list cut at the first `separator`, which belongs to neither side; `none` when there is none. -/
def cutAt? [DecidableEq α] (separator : α) (s : List α) : Option (List α × List α) :=
  match s.span (· ≠ separator) with
  | (_, []) => none
  | (before, _ :: after) => some (before, after)

/-- The lines of a text. A line ends at a line feed, and a carriage return just before it belongs to the ending;
a line feed at the very end of the text begins no further line. -/
def lines (s : List Char) : List (List Char) :=
  let dropReturn (line : List Char) : List Char := if line.getLast? = some '\r' then line.dropLast else line
  let pieces := splitOn '\n' s
  let ended := pieces.dropLast.map dropReturn
  match pieces.getLast? with
  | none | some [] => ended
  | some last => ended ++ [last]

/-- A letter of the ASCII alphabet in lower case; every other character as it is. -/
def lowerAscii (c : Char) : Char := if 'A' ≤ c ∧ c ≤ 'Z' then Char.ofNat (c.toNat + 32) else c

end Gatehouse.Text
