import Gatehouse.Encoding.Base64
import Gatehouse.Text.Utf8
import Gatehouse.Text.Blank

/-!
# Hash texts

The text form of a password hash: an algorithm, an optional version, parameters, a salt and the digest, each after a
dollar sign. A text that is read is well formed, but its algorithm and its parameters need not be known.
-/

namespace Gatehouse

/-- A password hash as its text gives it. -/
structure HashText where
  algorithm : List Char
  version : Option Nat
  params : List (List Char × List Char)
  salt : Option (List Char)
  digest : Option (List UInt8)
  deriving DecidableEq

namespace HashText

open Encoding (Base64)

/-- What can be wrong with a value inside a hash text. -/
inductive ValueFault
  | character (c : Char)
  | format
  | malformed
  | long
  | short
  deriving DecidableEq

/-- What can be wrong with a hash text. -/
inductive Fault
  | missingField
  | trailing
  | paramName
  | paramValue (fault : ValueFault)
  | params
  | salt (fault : ValueFault)
  | encoding
  | encodedLength
  | shortDigest
  deriving DecidableEq

/-- The fault of a value in words. -/
def ValueFault.text : ValueFault → String
  | .character c => "contains invalid character: '" ++ String.singleton c ++ "'"
  | .format => "value format is invalid"
  | .malformed => "value malformed"
  | .long => "value to long"
  | .short => "value to short"

/-- The fault in words. -/
def Fault.text : Fault → String
  | .missingField => "password hash string missing field"
  | .trailing => "password hash string contains trailing characters"
  | .paramName => "invalid parameter name"
  | .paramValue fault => "invalid parameter value: " ++ fault.text
  | .params => "maximum number of parameters reached"
  | .salt fault => "salt invalid: " ++ fault.text
  | .encoding => "invalid Base64 encoding"
  | .encodedLength => "invalid Base64 length"
  | .shortDigest => "output size too short, expected at least 10 bytes"

/-! ## Parts -/

/-- A decimal digit. -/
def isDigit (c : Char) : Bool := '0' ≤ c && c ≤ '9'

/-- A character of a name. -/
def isNameChar (c : Char) : Bool := ('a' ≤ c && c ≤ 'z') || isDigit c || c = '-'

/-- A character of a value. -/
def isValueChar (c : Char) : Bool :=
  ('A' ≤ c && c ≤ 'Z') || ('a' ≤ c && c ≤ 'z') || isDigit c || c = '/' || c = '+' || c = '.' || c = '-'

/-- A name: of one to 32 characters. -/
def name (s : List Char) : Except Fault (List Char) :=
  if 0 < s.length ∧ s.length ≤ 32 ∧ s.all isNameChar then .ok s else .error .paramName

/-- A value: of at most 64 bytes. -/
def value (s : List Char) : Except ValueFault (List Char) :=
  if 64 < (Text.Utf8.encode s).length then .error .long
  else
    match s.find? (!isValueChar ·) with
    | some c => .error (.character c)
    | none => .ok s

/-- A number below 2 ^ 32 in decimal digits, without needless zeros. -/
def decimal (s : List Char) : Except ValueFault Nat :=
  if s.isEmpty then .error .malformed
  else
    match s.find? (!isDigit ·) with
    | some c => .error (.character c)
    | none =>
      if s.head? = some '0' ∧ 1 < s.length then .error .format
      else
        let n := s.foldl (fun n c => n * 10 + (c.toNat - '0'.toNat)) 0
        if n < UInt32.size then .ok n else .error .format

/-- One parameter: a name and a value with an equals sign between them. -/
def param (s : List Char) : Except Fault (List Char × List Char) := do
  match Text.splitOn '=' s with
  | [] => .error .paramName
  | key :: rest =>
    let key ← name key
    match rest with
    | [] => .error (.paramValue .malformed)
    | v :: more =>
      let v ← (value v).mapError .paramValue
      if more.isEmpty then .ok (key, v) else .error (.paramValue .malformed)

/-- The parameters, with commas between them. -/
def readParams (s : List Char) : Except Fault (List (List Char × List Char)) :=
  if 127 < (Text.Utf8.encode s).length then .error .params else (Text.splitOn ',' s).mapM param

/-- A salt: a value of 4 to 64 bytes. -/
def readSalt (s : List Char) : Except Fault (List Char) :=
  let length := (Text.Utf8.encode s).length
  if length < 4 then .error (.salt .short)
  else if 64 < length then .error (.salt .long)
  else (value s).mapError .salt

/-- A digest: the base64 text of 10 to 64 bytes. -/
def readDigest (s : List Char) : Except Fault (List UInt8) :=
  let length := (Text.Utf8.encode s).length
  if 64 < length / 4 * 3 + length % 4 * 3 / 4 then .error .encodedLength
  else
    match Base64.standard.decode? s with
    | none => .error .encoding
    | some bytes => if bytes.length < 10 then .error .shortDigest else .ok bytes

/-! ## The whole text -/

/-- The version, if the field is one. -/
def readVersion? (field : List Char) : Option (Except Fault Nat) :=
  if field.take 2 = ['v', '='] ∧ ',' ∉ field then
    some ((value (field.drop 2) >>= decimal).mapError .paramValue)
  else none

/-- The fields after the algorithm: the version and the parameters where they stand first, then salt and digest. -/
def readFields (algorithm : List Char) (fields : List (List Char)) : Except Fault HashText := do
  let (version, fields) ← match fields with
    | field :: rest =>
      match readVersion? field with
      | some v => v.map fun v => (some v, rest)
      | none => .ok (none, fields)
    | [] => .ok (none, fields)
  let (params, fields) ← match fields with
    | field :: rest => if '=' ∈ field then (readParams field).map fun ps => (ps, rest) else .ok ([], fields)
    | [] => .ok ([], fields)
  match fields with
  | [] => .ok ⟨algorithm, version, params, none, none⟩
  | salt :: fields =>
    let salt ← readSalt salt
    match fields with
    | [] => .ok ⟨algorithm, version, params, some salt, none⟩
    | digest :: fields =>
      let digest ← readDigest digest
      if fields.isEmpty then .ok ⟨algorithm, version, params, some salt, some digest⟩ else .error .trailing

/-- Reads a hash text. -/
def ofChars (s : List Char) : Except Fault HashText :=
  match Text.splitOn '$' s with
  | [] :: algorithm :: fields => name algorithm >>= fun algorithm => readFields algorithm fields
  | _ => .error .missingField

/-- The text of a password hash. -/
def chars (h : HashText) : List Char :=
  let field (text : List Char) : List Char := '$' :: text
  let version := match h.version with
    | some v => field (['v', '='] ++ Nat.toDigits 10 v)
    | none => []
  let params := if h.params.isEmpty then [] else
    field ([','].intercalate (h.params.map fun (key, v) => key ++ '=' :: v))
  let salt := match h.salt with
    | some s => field s
    | none => []
  let digest := match h.digest with
    | some d => field (Base64.standard.encode d)
    | none => []
  field h.algorithm ++ version ++ params ++ salt ++ digest

end HashText

end Gatehouse
