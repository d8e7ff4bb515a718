import Gatehouse.Error
import Gatehouse.Identity.Role
import Gatehouse.Json.Record
import Gatehouse.Json.Value
import Gatehouse.Time.Instant
import Gatehouse.Uuid

/-!
# Claims

What a token says: who it is for, which roles it carries, and from when until when it holds. Claims are written as a
JSON object with times in whole seconds, rounded down, and read from an object in any order or from a list.
-/

namespace Gatehouse

/-- The claims of a token. -/
structure Claims where
  id : Uuid
  userId : Uuid
  issuedAt : Instant
  expireAt : Instant
  notBefore : Instant
  audience : String
  issuer : String
  subject : String
  roles : List Role
  deriving DecidableEq

namespace Claims

/-- The subject of every token that is made here. -/
def subjectText : String := "user-token"

/-- Whether claims hold at an instant: they expire first, and are invalid before their time. -/
def validAt (c : Claims) (now : Instant) : Except TokenError Unit :=
  if c.expireAt ≤ now then .error .expired
  else if now < c.notBefore then .error .invalid
  else .ok ()

/-- The claims with their times rounded down to whole seconds. -/
def floor (c : Claims) : Claims :=
  { c with issuedAt := c.issuedAt.floor, expireAt := c.expireAt.floor, notBefore := c.notBefore.floor }

/-! ## Writing -/

/-- The claims as a JSON object. -/
def json (c : Claims) : Json.Value :=
  .object
    [("jti", .string c.id.toString), ("user_id", .string c.userId.toString), ("iat", .integer c.issuedAt.seconds),
      ("exp", .integer c.expireAt.seconds), ("nbf", .integer c.notBefore.seconds), ("aud", .string c.audience),
      ("iss", .string c.issuer), ("sub", .string c.subject),
      ("roles", .list (c.roles.map fun role => .string role.name))]

/-! ## Reading -/

/-- Claims that are being read. -/
structure Draft where
  id : Option Uuid := none
  userId : Option Uuid := none
  issuedAt : Option Instant := none
  expireAt : Option Instant := none
  notBefore : Option Instant := none
  audience : Option String := none
  issuer : Option String := none
  subject : Option String := none
  roles : Option (List Role) := none

/-- An identifier in JSON. -/
def readUuid (s : List UInt8) : Json.Result Uuid :=
  match Json.stringValue "a UUID string" s with
  | .error f => .error f
  | .ok (text, s) =>
    match Uuid.ofString? text with
    | some id => .ok (id, s)
    | none => .error (Json.Failure.shape (.value (.string text) "a UUID string") s).placed

/-- An instant in JSON: a whole number of seconds. -/
def readInstant (s : List UInt8) : Json.Result Instant :=
  match Json.integerValue "a unix timestamp in seconds" s with
  | .error f => .error f
  | .ok (n, s) =>
    match Instant.ofSeconds? n with
    | some t => .ok (t, s)
    | none => .error (Json.Failure.shape (.value (.integer n) "a unix timestamp in seconds") s).placed

/-- Roles in JSON: a list of names. -/
def readRoles (s : List UInt8) : Json.Result (List Role) :=
  (Json.listValue (Json.stringValue "a string") s).map fun (names, s) => (names.map Role.mk, s)

/-- The claims of a draft in which nothing but the roles may be missing. -/
def Draft.complete (d : Draft) : Except Json.Mismatch Claims := do
  let id ← Json.required "jti" d.id
  let userId ← Json.required "user_id" d.userId
  let issuedAt ← Json.required "iat" d.issuedAt
  let expireAt ← Json.required "exp" d.expireAt
  let notBefore ← Json.required "nbf" d.notBefore
  let audience ← Json.required "aud" d.audience
  let issuer ← Json.required "iss" d.issuer
  let subject ← Json.required "sub" d.subject
  pure { id, userId, issuedAt, expireAt, notBefore, audience, issuer, subject, roles := d.roles.getD [] }

/-- Claims as a record. -/
def record : Json.Record Draft Claims where
  expected := "struct Payload"
  fields :=
    [.one "jti" Draft.id readUuid (fun d a => { d with id := some a }),
      .one "user_id" Draft.userId readUuid (fun d a => { d with userId := some a }),
      .one "iat" Draft.issuedAt readInstant (fun d a => { d with issuedAt := some a }),
      .one "exp" Draft.expireAt readInstant (fun d a => { d with expireAt := some a }),
      .one "nbf" Draft.notBefore readInstant (fun d a => { d with notBefore := some a }),
      .one "aud" Draft.audience (Json.stringValue "a string") (fun d a => { d with audience := some a }),
      .one "iss" Draft.issuer (Json.stringValue "a string") (fun d a => { d with issuer := some a }),
      .one "sub" Draft.subject (Json.stringValue "a string") (fun d a => { d with subject := some a }),
      .one "roles" Draft.roles readRoles (fun d a => { d with roles := some a }) true]
  empty := {}
  complete := Draft.complete

/-- The claims that a JSON text holds. -/
def ofBytes (s : List UInt8) : Except Json.Failure Claims := record.readAll s

/-- The claims that a JSON text holds as an object. -/
def ofObject? (s : List UInt8) : Option Claims :=
  match Json.skipSpaces s with
  | [] => none
  | b :: _ =>
    if b = 0x7B then
      match ofBytes s with
      | .ok claims => some claims
      | .error _ => none
    else none

end Claims

end Gatehouse
