import Gatehouse.Decimal.Width
import Gatehouse.Json.Fault
import Gatehouse.Text.Utf8
import Gatehouse.Encoding.Hex

/-!
# The parts of a JSON text

Reading of blanks, words, strings and numbers from the front of some bytes, and passing over a value that nobody
wants. Each reader answers with what it read and the bytes after it, or with a failure.
-/

namespace Gatehouse.Json

/-- What a reader answers: a value and the bytes after it, or a failure. -/
abbrev Result (α : Type) := Except Failure (α × List UInt8)

/-- A byte that may stand between the parts of a text. -/
def isSpace (b : UInt8) : Bool := b = 0x20 || b = 0x0A || b = 0x09 || b = 0x0D

/-- The bytes from the first that is no space. -/
def skipSpaces (s : List UInt8) : List UInt8 := s.dropWhile isSpace

/-- A decimal digit. -/
def isDigit (b : UInt8) : Bool := 0x30 ≤ b && b ≤ 0x39

/-- The rest of a word, letter by letter. -/
def readWord : (letters : List UInt8) → List UInt8 → Result Unit
  | [], s => .ok ((), s)
  | _ :: _, [] => .error (.here .endInValue [])
  | letter :: letters, b :: s => if b = letter then readWord letters s else .error (.here .badWord s)

/-! ## Strings -/

/-- Four hexadecimal digits. -/
def readHex4 (s : List UInt8) : Result Nat :=
  match s with
  | a :: b :: c :: d :: rest =>
    let digit (x : UInt8) : Option Nat := Encoding.Hex.value? (Char.ofNat x.toNat)
    match digit a, digit b, digit c, digit d with
    | some a, some b, some c, some d => .ok (((a * 16 + b) * 16 + c) * 16 + d, rest)
    | _, _, _, _ => .error (.here .badEscape rest)
  | _ => .error (.here .endInString [])

/-- The second escape of a pair, with its `\u`. -/
def readLowSurrogate (s : List UInt8) : Result Nat :=
  match s with
  | [] => .error (.here .endInString s)
  | b :: s =>
    if b ≠ 0x5C then .error (.here .brokenSurrogatePair s)
    else
      match s with
      | [] => .error (.here .endInString s)
      | b :: s =>
        if b ≠ 0x75 then .error (.here .brokenSurrogatePair s)
        else
          match readHex4 s with
          | .error f => .error f
          | .ok (m, s) => if m < 0xDC00 ∨ 0xDFFF < m then .error (.here .loneSurrogate s) else .ok (m, s)

/-- The character of an escape with digits, after its `\u`; two escapes make one character above U+FFFF. -/
def readUnicodeEscape (s : List UInt8) : Result Char :=
  match readHex4 s with
  | .error f => .error f
  | .ok (n, s) =>
    if 0xDC00 ≤ n ∧ n ≤ 0xDFFF then .error (.here .loneSurrogate s)
    else if n < 0xD800 ∨ 0xDBFF < n then .ok (Char.ofNat n, s)
    else
      match readLowSurrogate s with
      | .error f => .error f
      | .ok (m, s) => .ok (Char.ofNat ((n - 0xD800) * 0x400 + (m - 0xDC00) + 0x10000), s)

/-- The character of an escape, after its backslash. -/
def readEscape (s : List UInt8) : Result Char :=
  match s with
  | [] => .error (.here .endInString [])
  | b :: s =>
    if b = 0x22 then .ok ('"', s)
    else if b = 0x5C then .ok ('\\', s)
    else if b = 0x2F then .ok ('/', s)
    else if b = 0x62 then .ok ('\x08', s)
    else if b = 0x66 then .ok ('\x0c', s)
    else if b = 0x6E then .ok ('\n', s)
    else if b = 0x72 then .ok ('\r', s)
    else if b = 0x74 then .ok ('\t', s)
    else if b = 0x75 then readUnicodeEscape s
    else .error (.here .badEscape s)

/-- The bytes of a string after its opening quote, escapes resolved, in at most `fuel` steps; `read` holds the bytes
so far, last first. -/
def readStringBytes : (fuel : Nat) → (read : List UInt8) → List UInt8 → Result (List UInt8)
  | 0, _, s => .error (.here .endInString s)
  | _ + 1, _, [] => .error (.here .endInString [])
  | fuel + 1, read, b :: s =>
    if b = 0x22 then .ok (read.reverse, s)
    else if b = 0x5C then
      match readEscape s with
      | .error f => .error f
      | .ok (c, s) => readStringBytes fuel ((Text.Utf8.encodeChar c).reverse ++ read) s
    else if b < 0x20 then .error (.here .controlCharacter s)
    else readStringBytes fuel (b :: read) s

/-- A string after its opening quote. Bytes that are no text are reported at the first of them. -/
def readString (s : List UInt8) : Result String :=
  match readStringBytes (s.length + 1) [] s with
  | .error f => .error f
  | .ok (bytes, rest) =>
    match Text.Utf8.decodeString? bytes with
    | some text => .ok (text, rest)
    | none => .error ⟨.badCodePoint, some (s.length - Text.Utf8.validLength s.length s - 1), rest⟩

/-- Passes over a string after its opening quote, in at most `fuel` steps; its bytes need not be text. -/
def skipString : (fuel : Nat) → List UInt8 → Result Unit
  | 0, s => .error (.here .endInString s)
  | _ + 1, [] => .error (.here .endInString [])
  | fuel + 1, b :: s =>
    if b = 0x22 then .ok ((), s)
    else if b = 0x5C then
      match s with
      | [] => .error (.here .endInString [])
      | e :: s =>
        if e = 0x75 then
          match readHex4 s with
          | .error f => .error f
          | .ok (_, s) => skipString fuel s
        else if e ∈ [0x22, 0x5C, 0x2F, 0x62, 0x66, 0x6E, 0x72, 0x74] then skipString fuel s
        else .error (.here .badEscape s)
    else if b < 0x20 then .error (.here .controlCharacter (b :: s))
    else skipString fuel s

/-! ## Numbers -/

/-- A number as it stands in a text. -/
inductive Number
  | integer (n : Int)
  | float (x : Binary64)
  deriving DecidableEq

/-- The value of decimal digits. -/
def digitsValue (digits : List UInt8) : Nat := digits.foldl (fun n b => n * 10 + (b.toNat - 0x30)) 0

/-- The floating-point number of a decimal, unless it is out of range. -/
def makeFloat (negative : Bool) (digits : Nat) (exponent : Int) (rest : List UInt8) : Result Number :=
  match Binary64.ofDecimal negative digits exponent with
  | .finite n m e => .ok (.float (.finite n m e), rest)
  | _ => .error (.here .numberOutOfRange rest)

/-- The exponent of a number, after its letter. -/
def readExponent (negative : Bool) (digits : Nat) (scale : Int) (s : List UInt8) : Result Number :=
  let (sign, s) := match s with
    | b :: rest => if b = 0x2B then (1, rest) else if b = 0x2D then (-1, rest) else ((1 : Int), s)
    | [] => (1, s)
  match s with
  | [] => .error (.here .endInValue [])
  | b :: rest =>
    if isDigit b then
      let exponent := digitsValue (s.takeWhile isDigit)
      makeFloat negative digits (scale + sign * exponent) (s.dropWhile isDigit)
    else .error (.here .badNumber rest)

/-- The part of a number after its whole digits. -/
def readNumberTail (negative : Bool) (whole : List UInt8) (s : List UInt8) : Result Number :=
  match s with
  | b :: rest =>
    if b = 0x2E then
      let fraction := rest.takeWhile isDigit
      let after := rest.dropWhile isDigit
      if fraction.isEmpty then
        .error (.next (if after.isEmpty then .endInValue else .badNumber) after)
      else
        let digits := digitsValue (whole ++ fraction)
        match after with
        | e :: tail =>
          if e = 0x65 || e = 0x45 then readExponent negative digits (-(fraction.length : Int)) tail
          else makeFloat negative digits (-(fraction.length : Int)) after
        | [] => makeFloat negative digits (-(fraction.length : Int)) after
    else if b = 0x65 || b = 0x45 then readExponent negative (digitsValue whole) 0 rest
    else finish s
  | [] => finish s
where
  /-- A number without fraction and exponent: an integer when it fits in 64 bits and is no negative zero. -/
  finish (s : List UInt8) : Result Number :=
    let n := digitsValue whole
    if negative then
      if n = 0 || !Decimal.isInt64 (-n) then makeFloat true n 0 s else .ok (.integer (-n), s)
    else if n ≤ Decimal.maxUInt64 then .ok (.integer n, s)
    else makeFloat false n 0 s

/-- A number after its sign. -/
def readUnsigned (negative : Bool) (s : List UInt8) : Result Number :=
  match s with
  | [] => .error (.here .endInValue [])
  | b :: rest =>
    if b = 0x30 then
      match rest with
      | d :: _ => if isDigit d then .error (.next .badNumber rest) else readNumberTail negative [b] rest
      | [] => readNumberTail negative [b] rest
    else if isDigit b then readNumberTail negative (s.takeWhile isDigit) (s.dropWhile isDigit)
    else .error (.here .badNumber rest)

/-- A number whose first byte, a minus sign or a digit, has been seen. -/
def readNumber (s : List UInt8) : Result Number :=
  match s with
  | b :: rest => if b = 0x2D then readUnsigned true rest else readUnsigned false s
  | [] => readUnsigned false s

/-- Passes over the exponent of a number, after its letter. -/
def skipExponent (s : List UInt8) : Result Unit :=
  let s := match s with
    | b :: rest => if b = 0x2B || b = 0x2D then rest else s
    | [] => s
  match s with
  | b :: rest => if isDigit b then .ok ((), rest.dropWhile isDigit) else .error (.here .badNumber rest)
  | [] => .error (.here .badNumber [])

/-- Passes over the part of a number after its whole digits. -/
def skipNumberTail (s : List UInt8) : Result Unit :=
  match s with
  | b :: rest =>
    if b = 0x2E then
      let after := rest.dropWhile isDigit
      if (rest.takeWhile isDigit).isEmpty then .error (.next .badNumber after)
      else
        match after with
        | e :: tail => if e = 0x65 || e = 0x45 then skipExponent tail else .ok ((), after)
        | [] => .ok ((), after)
    else if b = 0x65 || b = 0x45 then skipExponent rest
    else .ok ((), s)
  | [] => .ok ((), s)

/-- Passes over a number after its sign; its size does not matter. -/
def skipUnsigned (s : List UInt8) : Result Unit :=
  match s with
  | [] => .error (.here .badNumber [])
  | b :: rest =>
    if b = 0x30 then
      match rest with
      | d :: _ => if isDigit d then .error (.next .badNumber rest) else skipNumberTail rest
      | [] => skipNumberTail rest
    else if isDigit b then skipNumberTail (rest.dropWhile isDigit)
    else .error (.here .badNumber rest)

/-! ## Values that nobody wants -/

/-- What an open bracket started. -/
inductive Frame
  | list
  | object
  deriving DecidableEq

/-- Passes over a value that is neither list nor object; the first byte of `b :: s` begins it. -/
def skipScalar (b : UInt8) (s : List UInt8) : Result Unit :=
  if b = 0x6E then readWord [0x75, 0x6C, 0x6C] s
  else if b = 0x74 then readWord [0x72, 0x75, 0x65] s
  else if b = 0x66 then readWord [0x61, 0x6C, 0x73, 0x65] s
  else if b = 0x2D then skipUnsigned s
  else if isDigit b then skipUnsigned (b :: s)
  else if b = 0x22 then skipString (s.length + 1) s
  else .error (.next .noValue (b :: s))

/-- The colon after a key. -/
def readColon (s : List UInt8) : Result Unit :=
  match skipSpaces s with
  | [] => .error (.next .endInObject [])
  | b :: rest => if b = 0x3A then .ok ((), rest) else .error (.next .noColon (b :: rest))

/-- Passes over the key of a member and its colon. -/
def skipKey (s : List UInt8) : Result Unit :=
  match skipSpaces s with
  | [] => .error (.next .endInObject [])
  | b :: rest =>
    if b ≠ 0x22 then .error (.next .keyNotString (b :: rest))
    else
      match skipString (rest.length + 1) rest with
      | .error f => .error f
      | .ok ((), rest) => readColon rest

/-- What comes next while a value is passed over. -/
inductive Due
  /-- A value. -/
  | value
  /-- A comma or the closing bracket of the innermost list or object, or its first member after `fresh`. -/
  | comma (fresh : Bool)

/-- Passes over what comes before the next value in an open list or object: nothing, or a key. -/
def skipLead (frame : Frame) (s : List UInt8) : Result Unit :=
  match frame with
  | .list => .ok ((), s)
  | .object => skipKey s

/-- The fault of a text that ends in an open list or object. -/
def Frame.ended : Frame → Fault
  | .list => .endInList
  | .object => .endInObject

/-- The fault of a value in a list or object that is followed by neither a comma nor the closing bracket. -/
def Frame.unseparated : Frame → Fault
  | .list => .noListCommaOrEnd
  | .object => .noObjectCommaOrEnd

/-- Whether a byte closes a list or object. -/
def Frame.closedBy (frame : Frame) (b : UInt8) : Bool :=
  match frame with
  | .list => b = 0x5D
  | .object => b = 0x7D

/-- Passes over what is due inside the open brackets, the innermost first, in at most `fuel` steps. -/
def skipOpen : (fuel : Nat) → Due → (frames : List Frame) → List UInt8 → Result Unit
  | 0, _, _, s => .error (.here .endInValue s)
  | fuel + 1, .value, frames, s =>
    match skipSpaces s with
    | [] => .error (.next .endInValue [])
    | b :: rest =>
      if b = 0x5B then skipOpen fuel (.comma true) (.list :: frames) rest
      else if b = 0x7B then skipOpen fuel (.comma true) (.object :: frames) rest
      else
        match skipScalar b rest with
        | .error f => .error f
        | .ok ((), rest) => skipOpen fuel (.comma false) frames rest
  | _ + 1, .comma _, [], s => .ok ((), s)
  | fuel + 1, .comma fresh, frame :: frames, s =>
    match skipSpaces s with
    | [] => .error (.next frame.ended [])
    | b :: rest =>
      if b = 0x2C && !fresh then
        match skipLead frame rest with
        | .error f => .error f
        | .ok ((), rest) => skipOpen fuel .value (frame :: frames) rest
      else if frame.closedBy b then skipOpen fuel (.comma false) frames rest
      else if fresh then
        match skipLead frame (b :: rest) with
        | .error f => .error f
        | .ok ((), rest) => skipOpen fuel .value (frame :: frames) rest
      else .error (.next frame.unseparated (b :: rest))

/-- Passes over one value. -/
def skipValue (s : List UInt8) : Result Unit := skipOpen (2 * s.length + 2) .value [] s

end Gatehouse.Json
