import Gatehouse.Settings.Basic
import Gatehouse.Settings.Error

/-!
# Reading settings from values

Each setting takes the values of several kinds: a text also takes numbers and truth values, a number also takes texts
and truth values. Structures are given as tables, or as lists in the order of their fields.
-/

namespace Gatehouse.Settings

/-- A value of a setting, or why there is none. -/
abbrev Reading (α : Type) := Except SettingsError α

/-! ## Single values -/

/-- The text of a value. -/
def readText (t : Tree) (key : String) : Reading String :=
  match t with
  | .scalar _ (.text s) => .ok s
  | .scalar _ (.bool b) => .ok (boolText b)
  | .scalar _ (.integer n) => .ok (toString n)
  | .scalar _ (.float x) => .ok x.positionalText
  | t => .error (.value "a string" t key)

/-- The number that a word for a truth value stands for. -/
def switch? (s : String) : Option Nat :=
  let word := String.ofList (s.toList.map Text.lowerAscii)
  if word ∈ ["true", "on", "yes"] then some 1
  else if word ∈ ["false", "off", "no"] then some 0
  else none

/-- A number rounded to a whole number between two bounds. -/
def clamp (low high : Int) : Binary64 → Int
  | .nan => 0
  | .infinite negative => if negative then low else high
  | x => max low (min (x.round?.getD 0) high)

/-- A signed number of 64 bits. -/
def readInteger (t : Tree) (key : String) : Reading Int :=
  let wrong := .error (.value "an integer" t key)
  match t with
  | .scalar _ (.integer n) => .ok n
  | .scalar _ (.bool b) => .ok (if b then 1 else 0)
  | .scalar _ (.float x) => .ok (clamp Decimal.minInt64 Decimal.maxInt64 x)
  | .scalar _ (.text s) =>
    match switch? s, Decimal.int64? s.toList with
    | some n, _ => .ok n
    | none, some n => .ok n
    | none, none => wrong
  | _ => wrong

/-- An unsigned number of 64 bits. -/
def readNatural (t : Tree) (key : String) : Reading Nat :=
  let wrong := .error (.value "an integer" t key)
  match t with
  | .scalar _ (.integer n) =>
    if 0 ≤ n then .ok n.toNat else .error (.value "an unsigned 64 bit or less integer" t key)
  | .scalar _ (.bool b) => .ok (if b then 1 else 0)
  | .scalar _ (.float x) => .ok (clamp 0 Decimal.maxUInt64 x).toNat
  | .scalar _ (.text s) =>
    match switch? s, Decimal.uint64? s.toList with
    | some n, _ => .ok n
    | none, some n => .ok n
    | none, none => wrong
  | _ => wrong

/-- An unsigned number of 16 bits. -/
def readPort (t : Tree) (key : String) : Reading UInt16 :=
  match readNatural t key with
  | .error e => .error e
  | .ok n => if n < UInt16.size then .ok (UInt16.ofNat n) else .error (.tooLarge n key)

/-- The items of a list, in order. -/
def readItems (read : Tree → String → Reading α) (key : String) : (index : Nat) → List Tree → Reading (List α)
  | _, [] => .ok []
  | index, t :: rest =>
    match read t (key ++ "[" ++ toString index ++ "]") with
    | .error e => .error e
    | .ok a => (readItems read key (index + 1) rest).map (a :: ·)

/-- A list. -/
def readList (read : Tree → String → Reading α) (t : Tree) (key : String) : Reading (List α) :=
  match t with
  | .list _ items => readItems read key 0 items
  | t => .error (.shape "a sequence" t key)

/-! ## Structures -/

/-- A structure as it is given: the fields by name, or by their place. -/
inductive Parts
  | named (members : List (String × Tree))
  | placed (items : List Tree)

/-- A structure that is read: its name and the number of its fields, its key, and what is given. -/
structure Form where
  name : String
  size : Nat
  key : String
  parts : Parts

namespace Form

/-- What is expected where a structure is wanted. -/
def expected (name : String) : String := "struct " ++ name

/-- The structure that a value gives. -/
def ofTree (name : String) (size : Nat) (t : Tree) (key : String) : Reading Form :=
  match t with
  | .table _ members => .ok ⟨name, size, key, .named members⟩
  | .list _ items => .ok ⟨name, size, key, .placed items⟩
  | t => .error (.shape (expected name) t key)

/-- The key of a field. -/
def fieldKey (f : Form) (field : String) : String :=
  if f.key.isEmpty || f.key.toList.getLast? = some ']' then f.key ++ field else f.key ++ "." ++ field

/-- The value of a field, if it is given. -/
def field? (f : Form) (index : Nat) (field : String) (read : Tree → String → Reading α) : Reading (Option α) :=
  match f.parts with
  | .named members =>
    match members.lookup field with
    | some t => (read t (f.fieldKey field)).map some
    | none => .ok none
  | .placed items =>
    match items[index]? with
    | some t => (read t (f.key ++ "[" ++ toString index ++ "]")).map some
    | none => .ok none

/-- The value of a field that has to be there if fields are given by place. -/
def field (f : Form) (index : Nat) (field : String) (read : Tree → String → Reading α) : Reading (Option α) :=
  match f.parts with
  | .named _ => f.field? index field read
  | .placed items =>
    if index < items.length then f.field? index field read
    else
      let elements := if f.size = 1 then " element" else " elements"
      .error (.length (expected f.name ++ " with " ++ toString f.size ++ elements) index f.key)

/-- The value of a field that has to be there. -/
def require (f : Form) (field : String) : Option α → Reading α
  | some a => .ok a
  | none => .error (.missing (f.fieldKey field))

end Form

/-! The fields that are there are all read before one that is not there is missed. -/

/-- Where the service listens. -/
def readServer (t : Tree) (key : String) : Reading Server := do
  let f ← Form.ofTree "ServerConfig" 2 t key
  let host ← f.field 0 "host" readText
  let port ← f.field 1 "port" readPort
  return ⟨← f.require "host" host, ← f.require "port" port⟩

/-- How much is logged. -/
def readLogging (t : Tree) (key : String) : Reading Logging := do
  let f ← Form.ofTree "LoggingConfig" 1 t key
  let level ← f.field 0 "level" readText
  return ⟨← f.require "level" level⟩

/-- How tokens are made. -/
def readToken (t : Tree) (key : String) : Reading Token := do
  let f ← Form.ofTree "TokenConfig" 5 t key
  let symmetricKey ← f.field 0 "symmetric_key" readText
  let access ← f.field 1 "access_token_duration_secs" readInteger
  let refresh ← f.field 2 "refresh_token_duration_secs" readInteger
  let issuer ← f.field 3 "issuer" readText
  let audience ← f.field 4 "audience" readText
  return ⟨← f.require "symmetric_key" symmetricKey, ← f.require "access_token_duration_secs" access,
    ← f.require "refresh_token_duration_secs" refresh, ← f.require "issuer" issuer, ← f.require "audience" audience⟩

/-- The files of rules and model. -/
def readPolicy (t : Tree) (key : String) : Reading Policy := do
  let f ← Form.ofTree "PolicyConfig" 2 t key
  let policyPath ← f.field 0 "policy_path" readText
  let modelPath ← f.field 1 "model_path" readText
  return ⟨← f.require "policy_path" policyPath, ← f.require "model_path" modelPath⟩

/-- A user who is there from the start; without roles unless they are given. -/
def readSeedUser (t : Tree) (key : String) : Reading SeedUser := do
  let f ← Form.ofTree "SeedUserConfig" 5 t key
  let username ← f.field 0 "username" readText
  let passwordHash ← f.field 1 "password_hash" readText
  let name ← f.field 2 "name" readText
  let email ← f.field 3 "email" readText
  let roles ← f.field? 4 "roles" (readList readText)
  return ⟨← f.require "username" username, ← f.require "password_hash" passwordHash, ← f.require "name" name,
    ← f.require "email" email, roles.getD []⟩

/-- All settings; without users unless they are given. -/
def ofTree (t : Tree) : Reading Settings := do
  let f ← Form.ofTree "Settings" 5 t ""
  let server ← f.field 0 "server" readServer
  let logging ← f.field 1 "logging" readLogging
  let token ← f.field 2 "token" readToken
  let policy ← f.field 3 "policy" readPolicy
  let users ← f.field? 4 "users" (readList readSeedUser)
  return ⟨← f.require "server" server, ← f.require "logging" logging, ← f.require "token" token,
    ← f.require "policy" policy, users.getD []⟩

end Gatehouse.Settings
