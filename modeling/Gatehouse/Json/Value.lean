import Gatehouse.Json.Scan

/-!
# JSON values

A value with the members of its objects in the order in which they stand, its compact text, and the reader of whole
values. Values nest at most 127 deep.
-/

namespace Gatehouse.Json

/-- A JSON value. -/
inductive Value
  | null
  | bool (b : Bool)
  | integer (n : Int)
  | float (x : Binary64)
  | string (s : String)
  | list (items : List Value)
  | object (members : List (String × Value))

instance : Inhabited Value := ⟨.null⟩

/-! ## Writing -/

/-- A character inside a string: quotes, backslashes and control characters are escaped. -/
def writeChar (c : Char) : List Char :=
  if c = '"' then ['\\', '"']
  else if c = '\\' then ['\\', '\\']
  else if c = '\x08' then ['\\', 'b']
  else if c = '\x0c' then ['\\', 'f']
  else if c = '\n' then ['\\', 'n']
  else if c = '\r' then ['\\', 'r']
  else if c = '\t' then ['\\', 't']
  else if c.toNat < 0x20 then ['\\', 'u', '0', '0', Encoding.Hex.digit (c.toNat / 16), Encoding.Hex.digit (c.toNat % 16)]
  else [c]

/-- A string between quotes. -/
def writeString (s : String) : List Char := '"' :: s.toList.flatMap writeChar ++ ['"']

/-- An integer in decimal digits. -/
def writeInteger (n : Int) : List Char :=
  let digits := Nat.toDigits 10 n.natAbs
  if n < 0 then '-' :: digits else digits

namespace Value

mutual

/-- The compact text of a value. -/
def write : Value → List Char
  | .null => ['n', 'u', 'l', 'l']
  | .bool true => ['t', 'r', 'u', 'e']
  | .bool false => ['f', 'a', 'l', 's', 'e']
  | .integer n => writeInteger n
  | .float x => x.scientificText.toList
  | .string s => writeString s
  | .list [] => ['[', ']']
  | .list (item :: items) => '[' :: write item ++ writeItems items
  | .object [] => ['{', '}']
  | .object ((key, value) :: members) => '{' :: writeString key ++ ':' :: write value ++ writeMembers members

/-- The further items of a list and its closing bracket. -/
def writeItems : List Value → List Char
  | [] => [']']
  | item :: items => ',' :: write item ++ writeItems items

/-- The further members of an object and its closing brace. -/
def writeMembers : List (String × Value) → List Char
  | [] => ['}']
  | (key, value) :: members => ',' :: writeString key ++ ':' :: write value ++ writeMembers members

end

/-- The compact text of a value as a string. -/
def text (v : Value) : String := String.ofList v.write

/-! ## Reading -/

mutual

/-- A value with at most `depth` levels of brackets, in at most `fuel` steps. -/
def read : (fuel depth : Nat) → List UInt8 → Result Value
  | 0, _, s => .error (.here .endInValue s)
  | fuel + 1, depth, s =>
    match skipSpaces s with
    | [] => .error (.next .endInValue [])
    | b :: rest =>
      if b = 0x6E then (readWord [0x75, 0x6C, 0x6C] rest).map fun (_, s) => (.null, s)
      else if b = 0x74 then (readWord [0x72, 0x75, 0x65] rest).map fun (_, s) => (.bool true, s)
      else if b = 0x66 then (readWord [0x61, 0x6C, 0x73, 0x65] rest).map fun (_, s) => (.bool false, s)
      else if b = 0x2D || isDigit b then
        (readNumber (b :: rest)).map fun (n, s) => (match n with | .integer n => .integer n | .float x => .float x, s)
      else if b = 0x22 then (readString rest).map fun (text, s) => (.string text, s)
      else if b = 0x5B then
        match depth with
        | 0 => .error (.next .tooDeep (b :: rest))
        | depth + 1 => (readItems fuel depth true rest).map fun (items, s) => (.list items, s)
      else if b = 0x7B then
        match depth with
        | 0 => .error (.next .tooDeep (b :: rest))
        | depth + 1 => (readMembers fuel depth true rest).map fun (members, s) => (.object members, s)
      else .error (.next .noValue (b :: rest))

/-- The items of a list up to its closing bracket, which is read too. -/
def readItems : (fuel depth : Nat) → (first : Bool) → List UInt8 → Result (List Value)
  | 0, _, _, s => .error (.here .endInList s)
  | fuel + 1, depth, first, s =>
    match skipSpaces s with
    | [] => .error (.next .endInList [])
    | b :: rest =>
      if b = 0x5D then .ok ([], rest)
      else if !first && b ≠ 0x2C then .error (.next .noListCommaOrEnd (b :: rest))
      else
        let start := if first then b :: rest else skipSpaces rest
        match start with
        | [] => .error (.next .endInValue [])
        | c :: tail =>
          if c = 0x5D then .error (.next .trailingComma (c :: tail))
          else
            match read fuel depth (c :: tail) with
            | .error f => .error f
            | .ok (item, s) => (readItems fuel depth false s).map fun (items, s) => (item :: items, s)

/-- The members of an object up to its closing brace, which is read too. -/
def readMembers : (fuel depth : Nat) → (first : Bool) → List UInt8 → Result (List (String × Value))
  | 0, _, _, s => .error (.here .endInObject s)
  | fuel + 1, depth, first, s =>
    match skipSpaces s with
    | [] => .error (.next .endInObject [])
    | b :: rest =>
      if b = 0x7D then .ok ([], rest)
      else if !first && b ≠ 0x2C then .error (.next .noObjectCommaOrEnd (b :: rest))
      else
        let start := if first then b :: rest else skipSpaces rest
        match start with
        | [] => .error (.next .endInValue [])
        | c :: tail =>
          if c = 0x22 then
            match readString tail with
            | .error f => .error f
            | .ok (key, s) =>
              match readColon s with
              | .error f => .error f
              | .ok ((), s) =>
                match read fuel depth s with
                | .error f => .error f
                | .ok (value, s) =>
                  (readMembers fuel depth false s).map fun (members, s) => ((key, value) :: members, s)
          else .error (.next (if c = 0x7D then .trailingComma else .keyNotString) (c :: tail))

end

/-- The value that is the whole of a text. -/
def ofBytes (s : List UInt8) : Except Failure Value :=
  match read (s.length + 1) 127 s with
  | .error f => .error f
  | .ok (v, rest) =>
    match skipSpaces rest with
    | [] => .ok v
    | b :: rest => .error (.next .trailingCharacters (b :: rest))

/-- The values of the members with one name. -/
def members (name : String) : List (String × Value) → List Value
  | [] => []
  | (key, value) :: rest => if key = name then value :: members name rest else members name rest

end Value

end Gatehouse.Json
