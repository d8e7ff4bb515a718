import Gatehouse.Json.Scan

/-!
# Records in JSON

A record of named fields is read from an object, its members in any order and members with other names passed over,
or from a list of the fields in their order. The fields fill a draft, which is completed at the end; what a field
holds and how it is read is the field's own affair.
-/

namespace Gatehouse.Json

/-- A field of a record whose draft is a `σ`. -/
structure Field (σ : Type) where
  name : String
  /-- Whether the draft has the field already. -/
  isSet : σ → Bool
  /-- Reads a value into the draft. -/
  read : σ → List UInt8 → Result σ
  /-- Whether a list may end before the field. -/
  optional : Bool

/-- A field that reads one value into the draft. -/
def Field.one (name : String) (get : σ → Option α) (read : List UInt8 → Result α) (set : σ → α → σ)
    (optional : Bool := false) : Field σ where
  name := name
  isSet d := (get d).isSome
  read d s := (read s).map fun (a, s) => (set d a, s)
  optional := optional

/-- The value of a field that a record cannot do without. -/
def required (name : String) : Option α → Except Mismatch α
  | some a => .ok a
  | none => .error (.missing name)

/-- A record: its fields in order, and how a draft of them becomes a value. -/
structure Record (σ α : Type) where
  /-- What is wanted, in messages. -/
  expected : String
  fields : List (Field σ)
  /-- The draft without any field. -/
  empty : σ
  complete : σ → Except Mismatch α

/-! ## Values of one kind -/

/-- What stands where another kind of value is wanted. Scalars are read for the message, lists and objects are not. -/
def found (s : List UInt8) : Result Found :=
  match s with
  | [] => .error (.next .noValue s)
  | b :: rest =>
    if b = 0x6E then (readWord [0x75, 0x6C, 0x6C] rest).map fun (_, s) => (.null, s)
    else if b = 0x74 then (readWord [0x72, 0x75, 0x65] rest).map fun (_, s) => (.bool true, s)
    else if b = 0x66 then (readWord [0x61, 0x6C, 0x73, 0x65] rest).map fun (_, s) => (.bool false, s)
    else if b = 0x2D || isDigit b then
      (readNumber s).map fun (n, s) => (match n with | .integer n => .integer n | .float x => .float x, s)
    else if b = 0x22 then (readString rest).map fun (text, s) => (.string text, s)
    else if b = 0x5B then .ok (.list, s)
    else if b = 0x7B then .ok (.object, s)
    else .error (.next .noValue s)

/-- The failure for a value of the wrong kind. -/
def wrongKind (expected : String) (s : List UInt8) : Failure :=
  match found s with
  | .error f => f
  | .ok (found, s) => (Failure.shape (.kind found expected) s).placed

/-- A string. -/
def stringValue (expected : String) (s : List UInt8) : Result String :=
  match skipSpaces s with
  | [] => .error (.next .endInValue [])
  | b :: rest => if b = 0x22 then readString rest else .error (wrongKind expected (b :: rest))

/-- An integer that fits in 64 bits with or without a sign. -/
def integerValue (expected : String) (s : List UInt8) : Result Int :=
  match skipSpaces s with
  | [] => .error (.next .endInValue [])
  | b :: rest =>
    if b = 0x2D || isDigit b then
      match readNumber (b :: rest) with
      | .error f => .error f
      | .ok (.integer n, s) => .ok (n, s)
      | .ok (.float x, s) => .error (Failure.shape (.kind (.float x) expected) s).placed
    else .error (wrongKind expected (b :: rest))

/-! ## Lists -/

/-- What follows in an open list: whether there is another element, and the bytes from it on. -/
def listNext (first : Bool) (s : List UInt8) : Result Bool :=
  match skipSpaces s with
  | [] => .error (.next .endInList [])
  | b :: rest =>
    if b = 0x5D then .ok (false, b :: rest)
    else if first then .ok (true, b :: rest)
    else if b = 0x2C then
      match skipSpaces rest with
      | [] => .error (.next .endInValue [])
      | c :: tail => if c = 0x5D then .error (.next .trailingComma (c :: tail)) else .ok (true, c :: tail)
    else .error (.next .noListCommaOrEnd (b :: rest))

/-- The closing bracket of a list; the second component is where reading stopped also when it is missing. -/
def listEnd (s : List UInt8) : Option Failure × List UInt8 :=
  match skipSpaces s with
  | [] => (some (.next .endInList []), [])
  | b :: rest =>
    if b = 0x5D then (none, rest)
    else if b = 0x2C then
      match skipSpaces rest with
      | [] => (some (.next .trailingCharacters []), [])
      | c :: tail =>
        (some (.next (if c = 0x5D then .trailingComma else .trailingCharacters) (c :: tail)), c :: tail)
    else (some (.next .trailingCharacters (b :: rest)), b :: rest)

/-- The closing brace of an object; the second component is where reading stopped also when it is missing. -/
def objectEnd (s : List UInt8) : Option Failure × List UInt8 :=
  match skipSpaces s with
  | [] => (some (.next .endInObject []), [])
  | b :: rest =>
    if b = 0x7D then (none, rest)
    else (some (.next (if b = 0x2C then .trailingComma else .trailingCharacters) (b :: rest)), b :: rest)

/-- What was read inside brackets, and the closing bracket. A failure inside is the one that is reported, but its
place, if it has none, is after the bracket. -/
def close (finish : List UInt8 → Option Failure × List UInt8) : Result α → Result α
  | .ok (a, s) =>
    match finish s with
    | (none, s) => .ok (a, s)
    | (some f, _) => .error f
  | .error f => .error ({ f with rest := (finish f.rest).2 } : Failure).placed

/-- The elements of a list, in at most `fuel` steps. -/
def readElements (read : List UInt8 → Result α) : (fuel : Nat) → (first : Bool) → List UInt8 → Result (List α)
  | 0, _, s => .error (.here .endInList s)
  | fuel + 1, first, s =>
    match listNext first s with
    | .error f => .error f
    | .ok (false, s) => .ok ([], s)
    | .ok (true, s) =>
      match read s with
      | .error f => .error f
      | .ok (a, s) =>
        match readElements read fuel false s with
        | .error f => .error f
        | .ok (as, s) => .ok (a :: as, s)

/-- A list of values of one kind. -/
def listValue (read : List UInt8 → Result α) (s : List UInt8) : Result (List α) :=
  match skipSpaces s with
  | [] => .error (.next .endInValue [])
  | b :: rest =>
    if b = 0x5B then close listEnd (readElements read (rest.length + 1) true rest)
    else .error (wrongKind "a sequence" (b :: rest))

/-! ## Records -/

namespace Record

variable {σ α : Type}

/-- What a list that ends too early is measured against. -/
def expectedLength (record : Record σ α) : String :=
  let count := record.fields.length
  record.expected ++ " with " ++ toString count ++ (if count = 1 then " element" else " elements")

/-- The value of a draft. -/
def completed (record : Record σ α) (draft : σ) (s : List UInt8) : Result α :=
  match record.complete draft with
  | .ok a => .ok (a, s)
  | .error m => .error (.shape m s)

/-- One member of an object after its key: read into the field of that name, or passed over. -/
def readMember (record : Record σ α) (draft : σ) (key : String) (s : List UInt8) : Result σ :=
  match record.fields.find? (·.name = key) with
  | none =>
    match readColon s with
    | .error f => .error f
    | .ok ((), s) =>
      match skipValue s with
      | .error f => .error f
      | .ok ((), s) => .ok (draft, s)
  | some field =>
    if field.isSet draft then .error (.shape (.repeated key) s)
    else
      match readColon s with
      | .error f => .error f
      | .ok ((), s) => field.read draft s

/-- The key of the next member of an open object, after its opening quote; `none` at the closing brace. -/
def nextKey (first : Bool) (s : List UInt8) : Result (Option String) :=
  match skipSpaces s with
  | [] => .error (.next .endInObject [])
  | b :: rest =>
    if b = 0x7D then .ok (none, b :: rest)
    else if !first && b ≠ 0x2C then .error (.next .noObjectCommaOrEnd (b :: rest))
    else
      match (if first then b :: rest else skipSpaces rest) with
      | [] => .error (.next .endInValue [])
      | c :: tail =>
        if c = 0x22 then
          match readString tail with
          | .error f => .error f
          | .ok (key, s) => .ok (some key, s)
        else .error (.next (if c = 0x7D then .trailingComma else .keyNotString) (c :: tail))

/-- The members of an object up to its closing brace, in at most `fuel` steps. -/
def readMembers (record : Record σ α) : (fuel : Nat) → (first : Bool) → σ → List UInt8 → Result σ
  | 0, _, _, s => .error (.here .endInObject s)
  | fuel + 1, first, draft, s =>
    match nextKey first s with
    | .error f => .error f
    | .ok (none, s) => .ok (draft, s)
    | .ok (some key, s) =>
      match record.readMember draft key s with
      | .error f => .error f
      | .ok (draft, s) => record.readMembers fuel false draft s

/-- The fields of a list, each one that is there; `index` of them have been read. -/
def readFields (record : Record σ α) : List (Field σ) → (index : Nat) → σ → List UInt8 → Result σ
  | [], _, draft, s => .ok (draft, s)
  | field :: fields, index, draft, s =>
    match listNext (index = 0) s with
    | .error f => .error f
    | .ok (true, s) =>
      match field.read draft s with
      | .error f => .error f
      | .ok (draft, s) => record.readFields fields (index + 1) draft s
    | .ok (false, s) =>
      if field.optional then record.readFields fields (index + 1) draft s
      else .error (.shape (.length index record.expectedLength) s)

/-- A record, from an object or a list. -/
def read (record : Record σ α) (s : List UInt8) : Result α :=
  match skipSpaces s with
  | [] => .error (.next .endInValue [])
  | b :: rest =>
    if b = 0x5B then
      close listEnd <|
        match record.readFields record.fields 0 record.empty rest with
        | .error f => .error f
        | .ok (draft, s) => record.completed draft s
    else if b = 0x7B then
      close objectEnd <|
        match record.readMembers (rest.length + 1) true record.empty rest with
        | .error f => .error f
        | .ok (draft, s) => record.completed draft s
    else .error (wrongKind record.expected (b :: rest))

/-- A record that is the whole of a text. -/
def readAll (record : Record σ α) (s : List UInt8) : Except Failure α :=
  match record.read s with
  | .error f => .error f
  | .ok (a, rest) =>
    match skipSpaces rest with
    | [] => .ok a
    | b :: rest => .error (.next .trailingCharacters (b :: rest))

end Record

end Gatehouse.Json
