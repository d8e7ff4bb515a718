import Gatehouse.Decimal.Reading
import Gatehouse.Encoding.Hex

/-!
# The words of TOML

Keys, strings, numbers, dates and times, each read from the front of a text. What is no such word is refused. Line
ends inside strings are kept as they stand, and a date or a time is kept as its text in one canonical spelling.
-/

namespace Gatehouse.Toml

/-- What is read from the front of a text, and the text after it. -/
abbrev Front (α : Type) := Option (α × List Char)

/-! ## Lines -/

/-- A blank inside a line. -/
def isBlank (c : Char) : Bool := c = ' ' || c = '\t'

/-- A character that may stand anywhere in a line: no control character but the tab. -/
def isPlain (c : Char) : Bool := c = '\t' || (0x20 ≤ c.toNat && c.toNat ≠ 0x7F)

/-- The text after the blanks at its front. -/
def skipBlanks (s : List Char) : List Char := s.dropWhile isBlank

/-- The text after the line end at its front. -/
def newline? : List Char → Option (List Char)
  | '\n' :: rest => some rest
  | '\r' :: '\n' :: rest => some rest
  | _ => none

/-- The text after a comment at its front. -/
def skipComment : List Char → List Char
  | '#' :: rest => rest.dropWhile isPlain
  | s => s

/-- The text after the end of a line, before which only blanks and a comment may stand. -/
def endLine? (s : List Char) : Option (List Char) :=
  match skipComment (skipBlanks s) with
  | [] => some []
  | s => newline? s

/-- The text after blanks, comments and whole lines of them, in at most `fuel` lines. -/
def skipLines : (fuel : Nat) → List Char → List Char
  | 0, s => s
  | fuel + 1, s =>
    let s := skipComment (skipBlanks s)
    match newline? s with
    | some rest => skipLines fuel rest
    | none => s

/-! ## Strings -/

/-- The character of an escape, after its backslash. -/
def readEscape : List Char → Front Char
  | [] => none
  | c :: rest =>
    let code (count : Nat) : Front Char :=
      if rest.length < count then none
      else (Encoding.Hex.character? (rest.take count)).map fun c => (c, rest.drop count)
    match c with
    | 'b' => some ('\x08', rest)
    | 't' => some ('\t', rest)
    | 'n' => some ('\n', rest)
    | 'f' => some ('\x0c', rest)
    | 'r' => some ('\r', rest)
    | 'e' => some ('\x1b', rest)
    | '"' => some ('"', rest)
    | '\\' => some ('\\', rest)
    | 'x' => code 2
    | 'u' => code 4
    | 'U' => code 8
    | _ => none

/-- A string in double quotes on one line, after its opening quote; in at most `fuel` characters. -/
def readBasic : (fuel : Nat) → (done : List Char) → List Char → Front String
  | 0, _, _ => none
  | _, _, [] => none
  | fuel + 1, done, c :: rest =>
    if c = '"' then some (String.ofList done.reverse, rest)
    else if c = '\\' then
      match readEscape rest with
      | some (c, rest) => readBasic fuel (c :: done) rest
      | none => none
    else if isPlain c then readBasic fuel (c :: done) rest
    else none

/-- A string in single quotes on one line, after its opening quote. -/
def readLiteral (s : List Char) : Front String :=
  let inner := s.takeWhile fun c => c ≠ '\'' && isPlain c
  match s.drop inner.length with
  | '\'' :: rest => some (String.ofList inner, rest)
  | _ => none

/-- The quotes at the end of a string of several lines: of a run of up to five, three close it and the others belong
to it. -/
def closeQuotes (quote : Char) (s : List Char) : Front Nat :=
  let count := min (s.takeWhile (· = quote)).length 5
  if 3 ≤ count then some (count - 3, s.drop count) else none

/-- A string of several lines, after its opening quotes, with escapes or without; in at most `fuel` characters. -/
def readLong (quote : Char) (escapes : Bool) : (fuel : Nat) → (done : List Char) → List Char → Front String
  | 0, _, _ => none
  | _, _, [] => none
  | fuel + 1, done, c :: rest =>
    match closeQuotes quote (c :: rest) with
    | some (extra, rest) => some (String.ofList (done.reverse ++ List.replicate extra quote), rest)
    | none =>
      if escapes && c = '\\' then
        match newline? (skipBlanks rest) with
        | some rest => readLong quote escapes fuel done (rest.dropWhile fun c => isBlank c || c = '\n' || c = '\r')
        | none =>
          match readEscape rest with
          | some (c, rest) => readLong quote escapes fuel (c :: done) rest
          | none => none
      else if isPlain c || c = '\n' || (c = '\r' && rest.head? = some '\n') then
        readLong quote escapes fuel (c :: done) rest
      else none

/-- A string of any kind. -/
def readString (s : List Char) : Front String :=
  let afterNewline (s : List Char) : List Char := (newline? s).getD s
  match s with
  | '"' :: '"' :: '"' :: rest => readLong '"' true (rest.length + 1) [] (afterNewline rest)
  | '\'' :: '\'' :: '\'' :: rest => readLong '\'' false (rest.length + 1) [] (afterNewline rest)
  | '"' :: rest => readBasic (rest.length + 1) [] rest
  | '\'' :: rest => readLiteral rest
  | _ => none

/-! ## Keys -/

/-- A character of a key without quotes. -/
def isKeyChar (c : Char) : Bool := c.isAlphanum || c = '_' || c = '-'

/-- One key. -/
def readKey (s : List Char) : Front String :=
  match s with
  | '"' :: rest => readBasic (rest.length + 1) [] rest
  | '\'' :: rest => readLiteral rest
  | _ =>
    let name := s.takeWhile isKeyChar
    if name.isEmpty then none else some (String.ofList name, s.drop name.length)

/-- Keys divided by dots, at most `fuel` of them, with blanks around each. -/
def readKeys : (fuel : Nat) → List Char → Front (List String)
  | 0, _ => none
  | fuel + 1, s =>
    match readKey (skipBlanks s) with
    | none => none
    | some (key, rest) =>
      match skipBlanks rest with
      | '.' :: rest => (readKeys fuel rest).map fun (keys, rest) => (key :: keys, rest)
      | rest => some ([key], rest)

/-! ## Numbers -/

/-- Digits without the underscores between them; an underscore stands between two digits. -/
def digits? (isDigit : Char → Bool) (s : List Char) : Option (List Char) :=
  let rec go (afterDigit : Bool) : List Char → Option (List Char)
    | [] => if afterDigit then some [] else none
    | c :: rest =>
      if c = '_' then if afterDigit then go false rest else none
      else if isDigit c then (go true rest).map (c :: ·)
      else none
  go false s

/-- The value of digits to a base. -/
def valueOf (base : Nat) (digits : List Char) : Nat :=
  digits.foldl (fun n c => n * base + (Encoding.Hex.value? c).getD 0) 0

/-- A number of a base other than ten, after its mark. -/
def readBased (base : Nat) (s : List Char) : Option Int :=
  let isDigit (c : Char) : Bool := (Encoding.Hex.value? c).any (· < base)
  (digits? isDigit s).bind fun ds => if Decimal.isInt64 (valueOf base ds) then some (valueOf base ds) else none

/-- A number as it is written. -/
inductive Number
  | integer (n : Int)
  | float (x : Binary64)

/-- The exponent of a number, after its letter. -/
def exponent? (s : List Char) : Option Int :=
  let (negative, s) := Decimal.sign s
  (digits? Char.isDigit s).map fun ds => if negative then -(valueOf 10 ds : Int) else valueOf 10 ds

/-- A decimal number after its sign: whole digits without leading zeros, and perhaps a fraction and an exponent. One that
is out of range is no number. -/
def decimal? (negative : Bool) (s : List Char) : Option Number := do
  let isMark (c : Char) : Bool := c = 'e' || c = 'E'
  let mantissa := s.takeWhile (!isMark ·)
  let whole ← digits? Char.isDigit (mantissa.takeWhile (· ≠ '.'))
  let fraction ← match mantissa.dropWhile (· ≠ '.') with
    | [] => some none
    | _ :: tail => (digits? Char.isDigit tail).map some
  let power ← match s.dropWhile (!isMark ·) with
    | [] => some none
    | _ :: tail => (exponent? tail).map some
  if whole.head? = some '0' && 1 < whole.length then none
  else
    match fraction, power with
    | none, none =>
      let n : Int := if negative then -(valueOf 10 whole : Int) else valueOf 10 whole
      if Decimal.isInt64 n then some (.integer n) else none
    | _, _ =>
      let fraction := fraction.getD []
      let x := Binary64.ofDecimal negative (valueOf 10 (whole ++ fraction)) (power.getD 0 - fraction.length)
      if x = .infinite negative then none else some (.float x)

/-- The number that a word writes. -/
def number? (s : List Char) : Option Number :=
  match s with
  | '0' :: 'x' :: rest => (readBased 16 rest).map .integer
  | '0' :: 'o' :: rest => (readBased 8 rest).map .integer
  | '0' :: 'b' :: rest => (readBased 2 rest).map .integer
  | _ =>
    let (negative, body) := Decimal.sign s
    if body = "inf".toList then some (.float (.infinite negative))
    else if body = "nan".toList then some (.float .nan)
    else decimal? negative body

/-! ## Dates and times -/

/-- A number of exactly so many digits that lies between two bounds, with its text. -/
def fixed? (count low high : Nat) (s : List Char) : Front (List Char) :=
  let ds := s.take count
  if ds.length = count && ds.all Char.isDigit && low ≤ valueOf 10 ds && valueOf 10 ds ≤ high then
    some (ds, s.drop count)
  else none

/-- The number of days in a month. -/
def daysIn (year month : Nat) : Nat :=
  if month = 2 then if year % 4 = 0 && (year % 100 ≠ 0 || year % 400 = 0) then 29 else 28
  else if month = 4 || month = 6 || month = 9 || month = 11 then 30
  else 31

/-- The text after one character. -/
def after? (c : Char) : List Char → Option (List Char)
  | d :: rest => if d = c then some rest else none
  | [] => none

/-- A date. -/
def date? (s : List Char) : Option (List Char × List Char) := do
  let (year, s) ← fixed? 4 0 9999 s
  let s ← after? '-' s
  let (month, s) ← fixed? 2 1 12 s
  let s ← after? '-' s
  let (day, s) ← fixed? 2 1 (daysIn (valueOf 10 year) (valueOf 10 month)) s
  some (year ++ '-' :: month ++ '-' :: day, s)

/-- The fraction of a second after its point: up to nine digits count, without zeros at their end. -/
def secondFraction (digits : List Char) : List Char :=
  match ((digits.take 9).reverse.dropWhile (· = '0')).reverse with
  | [] => ['0']
  | ds => ds

/-- A time, whose seconds may be left out. -/
def time? (s : List Char) : Option (List Char × List Char) := do
  let (hour, s) ← fixed? 2 0 23 s
  let s ← after? ':' s
  let (minute, s) ← fixed? 2 0 59 s
  match s with
  | ':' :: s =>
    let (second, s) ← fixed? 2 0 60 s
    match s with
    | '.' :: s =>
      let ds := s.takeWhile Char.isDigit
      if ds.isEmpty then none
      else some (hour ++ ':' :: minute ++ ':' :: second ++ '.' :: secondFraction ds, s.drop ds.length)
    | _ => some (hour ++ ':' :: minute ++ ':' :: second, s)
  | _ => some (hour ++ ':' :: minute, s)

/-- An offset from universal time, which is the whole of a text. One of zero is written with a plus sign. -/
def offset? (s : List Char) : Option (List Char) :=
  match s with
  | ['Z'] | ['z'] => some ['Z']
  | c :: s =>
    if c = '+' || c = '-' then do
      let (hour, s) ← fixed? 2 0 23 s
      let s ← after? ':' s
      let (minute, s) ← fixed? 2 0 59 s
      let isZero := valueOf 10 (hour ++ minute) = 0
      if s.isEmpty then some ((if isZero then '+' else c) :: hour ++ ':' :: minute) else none
    else none
  | [] => none

/-- A date, a time, or both with or without an offset, which is the whole of a text. -/
def moment? (s : List Char) : Option (List Char) :=
  match date? s with
  | some (date, []) => some date
  | some (date, c :: rest) =>
    if c = 'T' || c = 't' || c = ' ' then
      match time? rest with
      | some (time, []) => some (date ++ 'T' :: time)
      | some (time, rest) => (offset? rest).map fun offset => date ++ 'T' :: time ++ offset
      | none => none
    else none
  | none =>
    match time? s with
    | some (time, []) => some time
    | _ => none

/-- A character of a word: what may stand in numbers, dates, times and truth values. -/
def isWordChar (c : Char) : Bool := c.isAlphanum || c = '_' || c = '-' || c = '+' || c = '.' || c = ':'

/-- The word at the front of a text. After a date, a blank may stand before the time. -/
def readWord (s : List Char) : List Char × List Char :=
  let word := s.takeWhile isWordChar
  let rest := s.drop word.length
  match date? word, rest with
  | some (_, []), ' ' :: c :: tail =>
    if c.isDigit then
      let time := (c :: tail).takeWhile isWordChar
      (word ++ ' ' :: time, (c :: tail).drop time.length)
    else (word, rest)
  | _, _ => (word, rest)

end Gatehouse.Toml
