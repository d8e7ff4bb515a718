import Gatehouse.Digest.Argon2
import Gatehouse.Error
import Gatehouse.Password.HashText

/-!
# Passwords

A password is stored as the text of an Argon2 hash. New hashes are made with one fixed cost; checking a password
takes variant, version, cost, salt and length from the stored text.
-/

namespace Gatehouse.Password

open Digest (Argon2.Variant Argon2.Version Argon2.Cost)
open Encoding (Base64)

/-- The cost of new hashes, and of stored ones where they name none. -/
def defaultCost : Argon2.Cost := ⟨19456, 2, 1⟩

/-- The variant that an algorithm name stands for. -/
def variant? (algorithm : List Char) : Option Argon2.Variant :=
  if algorithm = "argon2id".toList then some .id
  else if algorithm = "argon2i".toList then some .i
  else if algorithm = "argon2d".toList then some .d
  else none

/-- The version that a number stands for; the later one where there is none. -/
def version? : Option Nat → Option Argon2.Version
  | none => some .v19
  | some 16 => some .v16
  | some 19 => some .v19
  | some _ => none

/-- What the parameters of a stored hash say. -/
structure Settings where
  cost : Argon2.Cost
  /-- Data that is hashed with the password. -/
  associated : List UInt8

/-- One parameter of a stored hash. A key identifier may stand there, but changes nothing. -/
def Settings.set? (s : Settings) (key v : List Char) : Option Settings :=
  let number := (HashText.decimal v).toOption
  match key with
  | ['m'] => number.map fun n => { s with cost := { s.cost with memory := n } }
  | ['t'] => number.map fun n => { s with cost := { s.cost with passes := n } }
  | ['p'] => number.map fun n => { s with cost := { s.cost with lanes := n } }
  | ['k', 'e', 'y', 'i', 'd'] =>
    (Base64.standard.decode? v).bind fun bytes => if bytes.length ≤ 8 then some s else none
  | ['d', 'a', 't', 'a'] =>
    (Base64.standard.decode? v).bind fun bytes =>
      if bytes.length ≤ 32 then some { s with associated := bytes } else none
  | _ => none

/-- What the parameters of a stored hash say, when a hash can be made with them. -/
def settings? (params : List (List Char × List Char)) : Option Settings := do
  let s ← params.foldlM (fun (s : Settings) (key, v) => s.set? key v) ⟨defaultCost, []⟩
  if 8 ≤ s.cost.memory && 8 * s.cost.lanes ≤ s.cost.memory && 1 ≤ s.cost.passes && 1 ≤ s.cost.lanes
      && s.cost.lanes < 0x1000000 then
    some s
  else none

/-- The digest of a password under the terms of a stored hash, when it has terms to hash under. -/
def digest? (stored : HashText) (size : Nat) (password : String) : Option (List UInt8) := do
  let salt ← stored.salt
  let s ← settings? stored.params
  let variant ← variant? stored.algorithm
  let version ← version? stored.version
  let saltBytes ← Base64.standard.decode? salt
  if saltBytes.length < 8 then none
  else some (Digest.Argon2.hash variant version s.cost size (Text.Utf8.ofString password) saltBytes s.associated)

/-- Checks a password against a stored hash. A text that is no hash is a fault of the configuration; a hash that the
password does not have, or that nothing can have, is not authentic. -/
def verify (password stored : String) : Except ServiceError Unit :=
  match HashText.ofChars stored.toList with
  | .error fault => .error (.configuration ("Invalid password hash: " ++ fault.text))
  | .ok stored =>
    match stored.digest with
    | none => .error .notAuthenticated
    | some digest => if digest? stored digest.length password = some digest then .ok () else .error .notAuthenticated

/-- The hash of a password with a salt. -/
def hash (salt : List UInt8) (password : String) : HashText where
  algorithm := "argon2id".toList
  version := some Argon2.Version.v19.number
  params := [(['m'], Nat.toDigits 10 defaultCost.memory), (['t'], Nat.toDigits 10 defaultCost.passes),
    (['p'], Nat.toDigits 10 defaultCost.lanes)]
  salt := some (Base64.standard.encode salt)
  digest := some (Digest.Argon2.hash .id .v19 defaultCost 32 (Text.Utf8.ofString password) salt [])

/-- The stored text for a password. -/
def hashText (salt : List UInt8) (password : String) : String := String.ofList (hash salt password).chars

end Gatehouse.Password
