/-!
# UTF-8

Characters as bytes and back. `encode` writes a text, `decode?` reads one or refuses, and `decodeLossy` reads any
bytes, one replacement character for each longest stretch that begins like a character and does not end as one.
Bytes are lists, as every reader of this library takes its input from the front.
-/

namespace Gatehouse.Text.Utf8

/-- The bytes of one character, one to four of them. -/
def encodeChar (c : Char) : List UInt8 :=
  let n := c.toNat
  if n < 0x80 then [n.toUInt8]
  else if n < 0x800 then [(0xC0 + n / 64).toUInt8, (0x80 + n % 64).toUInt8]
  else if n < 0x10000 then
    [(0xE0 + n / 4096).toUInt8, (0x80 + n / 64 % 64).toUInt8, (0x80 + n % 64).toUInt8]
  else
    [(0xF0 + n / 262144).toUInt8, (0x80 + n / 4096 % 64).toUInt8, (0x80 + n / 64 % 64).toUInt8,
      (0x80 + n % 64).toUInt8]

/-- The bytes of a text. -/
def encode (s : List Char) : List UInt8 := s.flatMap encodeChar

/-- A byte that continues a character. -/
def isTail (b : UInt8) : Bool := 0x80 ≤ b && b ≤ 0xBF

/-- What the second byte of a three-byte character may be: no overlong forms, no surrogates. -/
def isSecondOfThree (first second : UInt8) : Bool :=
  if first = 0xE0 then 0xA0 ≤ second && second ≤ 0xBF
  else if first = 0xED then 0x80 ≤ second && second ≤ 0x9F
  else isTail second

/-- What the second byte of a four-byte character may be: no overlong forms, nothing above the last code point. -/
def isSecondOfFour (first second : UInt8) : Bool :=
  if first = 0xF0 then 0x90 ≤ second && second ≤ 0xBF
  else if first = 0xF4 then 0x80 ≤ second && second ≤ 0x8F
  else isTail second

/-- The character of a leading byte and its continuation. -/
def join2 (a b : UInt8) : Char := Char.ofNat ((a.toNat - 0xC0) * 64 + (b.toNat - 0x80))

@[inherit_doc join2]
def join3 (a b c : UInt8) : Char :=
  Char.ofNat ((a.toNat - 0xE0) * 4096 + (b.toNat - 0x80) * 64 + (c.toNat - 0x80))

@[inherit_doc join2]
def join4 (a b c d : UInt8) : Char :=
  Char.ofNat ((a.toNat - 0xF0) * 262144 + (b.toNat - 0x80) * 4096 + (c.toNat - 0x80) * 64 + (d.toNat - 0x80))

/-- What stands at the front of some bytes. -/
inductive Front
  /-- A character, and the bytes after it. -/
  | char (c : Char) (rest : List UInt8)
  /-- The start of no character; after it, the bytes where reading may go on. -/
  | bad (rest : List UInt8)

/-- Reads the front of `b :: rest`. -/
def front (b : UInt8) (rest : List UInt8) : Front :=
  if b < 0x80 then .char (Char.ofNat b.toNat) rest
  else if 0xC2 ≤ b && b ≤ 0xDF then
    match rest with
    | c :: rest1 => if isTail c then .char (join2 b c) rest1 else .bad rest
    | [] => .bad rest
  else if 0xE0 ≤ b && b ≤ 0xEF then
    match rest with
    | c :: rest1 =>
      if isSecondOfThree b c then
        match rest1 with
        | d :: rest2 => if isTail d then .char (join3 b c d) rest2 else .bad rest1
        | [] => .bad rest1
      else .bad rest
    | [] => .bad rest
  else if 0xF0 ≤ b && b ≤ 0xF4 then
    match rest with
    | c :: rest1 =>
      if isSecondOfFour b c then
        match rest1 with
        | d :: rest2 =>
          if isTail d then
            match rest2 with
            | e :: rest3 => if isTail e then .char (join4 b c d e) rest3 else .bad rest2
            | [] => .bad rest2
          else .bad rest1
        | [] => .bad rest1
      else .bad rest
    | [] => .bad rest
  else .bad rest

/-- Reads characters until the bytes end, at most `fuel` of them, with `bad` for what is none. -/
def decodeWith (bad : List Char → Option (List Char)) : (fuel : Nat) → List UInt8 → Option (List Char)
  | 0, _ => some []
  | _, [] => some []
  | fuel + 1, b :: rest =>
    match front b rest with
    | .char c rest => (decodeWith bad fuel rest).map (c :: ·)
    | .bad rest => (decodeWith bad fuel rest).bind bad

/-- The text that some bytes hold, when they are well formed throughout. -/
def decode? (bytes : List UInt8) : Option (List Char) := decodeWith (fun _ => none) bytes.length bytes

/-- The text of any bytes, U+FFFD standing for what is not well formed. -/
def decodeLossy (bytes : List UInt8) : List Char :=
  (decodeWith (fun rest => some ('\uFFFD' :: rest)) bytes.length bytes).getD []

/-- How many bytes stand before the first that begins no character. -/
def validLength : (fuel : Nat) → List UInt8 → Nat
  | 0, _ => 0
  | _, [] => 0
  | fuel + 1, b :: rest =>
    match front b rest with
    | .char c rest => (encodeChar c).length + validLength fuel rest
    | .bad _ => 0

/-- The text of some bytes. -/
def decodeString? (bytes : List UInt8) : Option String := (decode? bytes).map String.ofList

/-- The bytes of a string. -/
def ofString (s : String) : List UInt8 := encode s.toList

end Gatehouse.Text.Utf8
