import Gatehouse.Encoding.Hex
import Gatehouse.Text.Blank

/-!
# Identifiers

Users, sessions and tokens are named by 128-bit identifiers. They are written with hyphens and lower-case digits,
and read in any of four forms: with hyphens, without, with hyphens in braces, and as a URN.
-/

namespace Gatehouse

/-- An identifier of 128 bits, as sixteen bytes. -/
structure Uuid where
  bytes : Vector UInt8 16
  deriving DecidableEq

namespace Uuid

/-- The identifier without a bit set. -/
def nil : Uuid := ⟨Vector.replicate 16 0⟩

instance : Inhabited Uuid := ⟨nil⟩

/-- The identifier of exactly sixteen bytes. -/
def ofBytes? (bytes : List UInt8) : Option Uuid :=
  if h : bytes.length = 16 then some ⟨⟨bytes.toArray, by simp [h]⟩⟩ else none

/-- The digits of the identifier, in the groups of its hyphenated form. -/
def groups (u : Uuid) : List (List Char) :=
  let digits := u.bytes.toList.flatMap Encoding.Hex.ofByte
  [digits.take 8, (digits.drop 8).take 4, (digits.drop 12).take 4, (digits.drop 16).take 4, digits.drop 20]

/-- The hyphenated form. -/
def chars (u : Uuid) : List Char := ['-'].intercalate u.groups

/-- The hyphenated form as a string. -/
def toString (u : Uuid) : String := String.ofList u.chars

instance : ToString Uuid := ⟨Uuid.toString⟩

/-- The identifier whose 32 digits these are. -/
def ofDigits? (digits : List Char) : Option Uuid := (Encoding.Hex.decode? digits).bind ofBytes?

/-- The identifier written with hyphens after the digits 8, 12, 16 and 20. -/
def ofHyphenated? (s : List Char) : Option Uuid :=
  if s.length = 36 ∧ s[8]? = some '-' ∧ s[13]? = some '-' ∧ s[18]? = some '-' ∧ s[23]? = some '-' then
    ofDigits? (s.take 8 ++ (s.drop 9).take 4 ++ (s.drop 14).take 4 ++ (s.drop 19).take 4 ++ s.drop 24)
  else none

/-- The name space that the URN form starts with, in letters of either case. -/
def urn : List Char := ['u', 'r', 'n', ':', 'u', 'u', 'i', 'd', ':']

/-- Reads an identifier in any of its forms. -/
def ofChars? (s : List Char) : Option Uuid :=
  if s.length = 32 then ofDigits? s
  else if s.length = 36 then ofHyphenated? s
  else if s.length = 38 ∧ s.head? = some '{' ∧ s.getLast? = some '}' then ofHyphenated? (s.drop 1).dropLast
  else if s.length = 45 ∧ (s.take 9).map Text.lowerAscii = urn then ofHyphenated? (s.drop 9)
  else none

/-- Reads an identifier in any of its forms. -/
def ofString? (s : String) : Option Uuid := ofChars? s.toList

/-- The version number that an identifier carries. -/
def version (u : Uuid) : Nat := u.bytes[6].toNat / 16

end Uuid

end Gatehouse
