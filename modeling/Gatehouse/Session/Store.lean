import Gatehouse.Error
import Gatehouse.Json.Value
import Gatehouse.Time.Rfc3339
import Gatehouse.Uuid

/-!
# Sessions

A session is the server's record of a refresh token, under the identifier of that token. The store adds sessions,
looks them up, sets their blocked mark and replaces their token text; a call that fails changes nothing.
-/

namespace Gatehouse

/-- A session as entered: before it is stored. -/
structure NewSession where
  id : Uuid
  userId : Uuid
  refreshToken : String
  userAgent : String
  clientIp : String
  expiresAt : Instant
  deriving DecidableEq

/-- The record of a refresh token. -/
structure Session where
  id : Uuid
  userId : Uuid
  refreshToken : String
  userAgent : String
  clientIp : String
  isBlocked : Bool
  expiresAt : Instant
  createdAt : Instant
  deriving DecidableEq

namespace Session

/-- A session is expired from its expiry on. -/
def isExpiredAt (s : Session) (now : Instant) : Bool := decide (s.expiresAt ≤ now)

/-- The session as JSON. -/
def json (s : Session) : Json.Value :=
  .object
    [("id", .string s.id.toString), ("user_id", .string s.userId.toString),
      ("refresh_token", .string s.refreshToken), ("user_agent", .string s.userAgent),
      ("client_ip", .string s.clientIp), ("is_blocked", .bool s.isBlocked),
      ("expires_at", .string s.expiresAt.rfc3339), ("created_at", .string s.createdAt.rfc3339)]

end Session

/-- The sessions, in the order of their creation. -/
structure SessionStore where
  sessions : List Session

namespace SessionStore

/-- The store without sessions. -/
def empty : SessionStore := ⟨[]⟩

/-- The session of an identifier. -/
def get? (store : SessionStore) (id : Uuid) : Option Session := store.sessions.find? (·.id = id)

/-- The error that an identifier has no session. -/
def missing (id : Uuid) : StoreError := .notFound ("session " ++ id.toString)

/-- The session of an identifier, or the error that there is none. -/
def get (store : SessionStore) (id : Uuid) : Except StoreError Session :=
  match store.get? id with
  | some session => .ok session
  | none => .error (missing id)

/-- Adds an unblocked session, unless its identifier is taken. -/
def create (store : SessionStore) (now : Instant) (new : NewSession) : Except StoreError (Session × SessionStore) :=
  match store.get? new.id with
  | some _ => .error (.conflict ("session " ++ new.id.toString))
  | none =>
    let session : Session :=
      { id := new.id, userId := new.userId, refreshToken := new.refreshToken, userAgent := new.userAgent,
        clientIp := new.clientIp, isBlocked := false, expiresAt := new.expiresAt, createdAt := now }
    .ok (session, ⟨store.sessions ++ [session]⟩)

/-- Changes the session of an identifier, which stays under it. -/
def modify (store : SessionStore) (id : Uuid) (change : Session → Session) : SessionStore :=
  ⟨store.sessions.map fun s => if s.id = id then change s else s⟩

/-- Changes the session of an identifier, or fails if there is none. -/
def update (store : SessionStore) (id : Uuid) (change : Session → Session) :
    Except StoreError (Session × SessionStore) :=
  match store.get? id with
  | some session => .ok (change session, store.modify id change)
  | none => .error (missing id)

/-- Sets the blocked mark of a session. -/
def setBlocked (store : SessionStore) (id : Uuid) (blocked : Bool) : Except StoreError (Session × SessionStore) :=
  store.update id fun s => { s with isBlocked := blocked }

/-- Replaces the token text of a session. -/
def replaceToken (store : SessionStore) (id : Uuid) (token : String) : Except StoreError (Session × SessionStore) :=
  store.update id fun s => { s with refreshToken := token }

end SessionStore

end Gatehouse
