import Gatehouse.Encoding.Hex
import Gatehouse.Text.Table.Escaped
import Gatehouse.Text.Utf8

/-!
# Quoted text

Text between double quotes, as messages show it: quotes, backslashes and control characters are escaped, and so is
every character without a visible form of its own.
-/

namespace Gatehouse.Text

/-- Whether a code point lies in one of the runs. -/
def inRuns (runs : List (Nat × Nat)) (n : Nat) : Bool := runs.any fun r => r.1 ≤ n && n ≤ r.2

/-- One character inside quotes. -/
def quotedChar (c : Char) : List Char :=
  if c = '"' then ['\\', '"']
  else if c = '\\' then ['\\', '\\']
  else if c = '\n' then ['\\', 'n']
  else if c = '\r' then ['\\', 'r']
  else if c = '\t' then ['\\', 't']
  else if c.toNat = 0 then ['\\', '0']
  else if inRuns Table.escapedRanges c.toNat then
    ['\\', 'u', '{'] ++ Encoding.Hex.ofNat c.toNat ++ ['}']
  else [c]

/-- A text between quotes. -/
def quoted (s : String) : String := String.ofList ('"' :: s.toList.flatMap quotedChar ++ ['"'])

/-- One byte that belongs to no character, inside quotes. -/
def quotedByte (b : UInt8) : List Char := ['\\', 'x'] ++ (Encoding.Hex.ofByte b).map Char.toUpper

/-- At most `fuel` characters and stretches that are none, inside quotes. Single quotes are escaped, too. -/
def quotedFront : (fuel : Nat) → List UInt8 → List Char
  | 0, _ => []
  | _, [] => []
  | fuel + 1, b :: rest =>
    match Utf8.front b rest with
    | .char c after => (if c = '\'' then ['\\', c] else quotedChar c) ++ quotedFront fuel after
    | .bad after => ((b :: rest).take (rest.length + 1 - after.length)).flatMap quotedByte ++ quotedFront fuel after

/-- Bytes between quotes: the characters among them, and what is none in digits. -/
def quotedBytes (bytes : List UInt8) : String := String.ofList ('"' :: quotedFront bytes.length bytes ++ ['"'])

example : quotedBytes [0x61, 0xFF, 0x27, 0xC3, 0xA9] = "\"a\\xFF\\'é\"" := by decide +kernel

end Gatehouse.Text
