import Gatehouse.Decimal.Binary64
import Gatehouse.Text.Quoted

/-!
# What can be wrong with a JSON text

A text may break the grammar, end too early, or be JSON of another shape than is wanted. A failure says which, and
where: places are counted as the bytes that were left, and turned into a line and a column when a message is made.
-/

namespace Gatehouse.Json

/-- A value that was found where another was wanted. -/
inductive Found
  | null
  | bool (b : Bool)
  | integer (n : Int)
  | float (x : Binary64)
  | string (s : String)
  | list
  | object
  deriving DecidableEq

/-- The found value in a message. -/
def Found.text : Found → String
  | .null => "null"
  | .bool b => "boolean `" ++ (if b then "true" else "false") ++ "`"
  | .integer n => "integer `" ++ toString n ++ "`"
  | .float x => "floating point `" ++ x.scientificText ++ "`"
  | .string s => "string " ++ Text.quoted s
  | .list => "sequence"
  | .object => "map"

/-- How a JSON value misses the wanted shape. -/
inductive Mismatch
  /-- Another kind of value. -/
  | kind (found : Found) (expected : String)
  /-- A value of the right kind that stands for nothing. -/
  | value (found : Found) (expected : String)
  | missing (field : String)
  | repeated (field : String)
  /-- A list that ends too early. -/
  | length (found : Nat) (expected : String)
  deriving DecidableEq

/-- The mismatch in a message. -/
def Mismatch.text : Mismatch → String
  | .kind found expected => "invalid type: " ++ found.text ++ ", expected " ++ expected
  | .value found expected => "invalid value: " ++ found.text ++ ", expected " ++ expected
  | .missing field => "missing field `" ++ field ++ "`"
  | .repeated field => "duplicate field `" ++ field ++ "`"
  | .length found expected => "invalid length " ++ toString found ++ ", expected " ++ expected

/-- What can be wrong with a JSON text. -/
inductive Fault
  | endInList
  | endInObject
  | endInString
  | endInValue
  | noColon
  | noListCommaOrEnd
  | noObjectCommaOrEnd
  | badWord
  | noValue
  | badEscape
  | badNumber
  | numberOutOfRange
  | badCodePoint
  | controlCharacter
  | keyNotString
  | loneSurrogate
  | brokenSurrogatePair
  | trailingComma
  | trailingCharacters
  | tooDeep
  | mismatch (m : Mismatch)
  deriving DecidableEq

/-- The fault in a message. -/
def Fault.text : Fault → String
  | .endInList => "EOF while parsing a list"
  | .endInObject => "EOF while parsing an object"
  | .endInString => "EOF while parsing a string"
  | .endInValue => "EOF while parsing a value"
  | .noColon => "expected `:`"
  | .noListCommaOrEnd => "expected `,` or `]`"
  | .noObjectCommaOrEnd => "expected `,` or `\x7d`"
  | .badWord => "expected ident"
  | .noValue => "expected value"
  | .badEscape => "invalid escape"
  | .badNumber => "invalid number"
  | .numberOutOfRange => "number out of range"
  | .badCodePoint => "invalid unicode code point"
  | .controlCharacter => "control character (\\u0000-\\u001F) found while parsing a string"
  | .keyNotString => "key must be a string"
  | .loneSurrogate => "lone leading surrogate in hex escape"
  | .brokenSurrogatePair => "unexpected end of hex escape"
  | .trailingComma => "trailing comma"
  | .trailingCharacters => "trailing characters"
  | .tooDeep => "recursion limit exceeded"
  | .mismatch m => m.text

/-- The three kinds of fault. -/
inductive Category
  | grammar
  | shape
  | ended
  deriving DecidableEq

/-- The kind of a fault. -/
def Fault.category : Fault → Category
  | .endInList | .endInObject | .endInString | .endInValue => .ended
  | .mismatch _ => .shape
  | _ => .grammar

/-- A fault, with its place when it is known, and where reading stopped. -/
structure Failure where
  fault : Fault
  /-- The number of bytes left at the place to report. -/
  place : Option Nat
  rest : List UInt8

namespace Failure

/-- A fault just before the rest. -/
def here (fault : Fault) (rest : List UInt8) : Failure := ⟨fault, some rest.length, rest⟩

/-- A fault at the next byte of the rest, which is reported as passed. -/
def next (fault : Fault) (rest : List UInt8) : Failure := ⟨fault, some (rest.length - 1), rest⟩

/-- A mismatch whose place is where the value around it ends. -/
def shape (m : Mismatch) (rest : List UInt8) : Failure := ⟨.mismatch m, none, rest⟩

/-- The failure, placed where reading stopped unless it has a place. -/
def placed (f : Failure) : Failure := { f with place := some (f.place.getD f.rest.length) }

/-- The line and the column of the failure in the whole text, columns counted in bytes. -/
def position (f : Failure) (whole : List UInt8) : Nat × Nat :=
  let before := whole.take (whole.length - f.place.getD f.rest.length)
  let line := before.count 0x0A + 1
  let column := (before.reverse.takeWhile (· ≠ 0x0A)).length
  (line, column)

/-- The failure in a message about the whole text. -/
def text (f : Failure) (whole : List UInt8) : String :=
  let (line, column) := f.position whole
  f.fault.text ++ " at line " ++ toString line ++ " column " ++ toString column

end Failure

end Gatehouse.Json
