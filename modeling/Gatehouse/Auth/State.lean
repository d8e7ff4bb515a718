import Gatehouse.Identity.User
import Gatehouse.Session.Store
import Gatehouse.Token.Maker

/-!
# What authentication works on

The two stores and the count of tokens asked for, and what is given from outside: the token maker, the identifiers
that it draws, and the faults of a backend that does not answer. A fault takes the place of the call it is for, which
then changes nothing.
-/

namespace Gatehouse.Auth

/-- The calls that fail, each with the error that it answers. -/
structure Faults where
  findUser : Option StoreError := none
  rolesOf : Option StoreError := none
  createSession : Option StoreError := none
  getSession : Option StoreError := none
  updateSession : Option StoreError := none
  /-- The failing token requests, by their number. -/
  issue : Nat → Option TokenError := fun _ => none

/-- What is given from outside. -/
structure Backend where
  maker : TokenMaker
  /-- The identifiers of tokens, by the number of the request for them. -/
  ids : Nat → Uuid
  faults : Faults

/-- What changes in the course of time. -/
structure State where
  users : UserStore
  sessions : SessionStore
  /-- The number of tokens asked for. -/
  issued : Nat

/-- The state before anything has happened. -/
def State.initial (users : UserStore) : State := ⟨users, .empty, 0⟩

/-- The outcome of a call that fails if there is a fault for it. -/
def faultOr (fault : Option ε) (outcome : Except ε α) : Except ε α :=
  match fault with
  | some e => .error e
  | none => outcome

namespace Backend

/-- The user of a name. -/
def findUser (b : Backend) (s : State) (username : String) : Except StoreError User :=
  faultOr b.faults.findUser (s.users.find username)

/-- The roles of an identifier. -/
def rolesOf (b : Backend) (s : State) (id : Uuid) : Except StoreError (List Role) :=
  faultOr b.faults.rolesOf (.ok (s.users.rolesOf id))

/-- Adds a session. -/
def createSession (b : Backend) (now : Instant) (s : State) (new : NewSession) : Except StoreError (Session × State) :=
  faultOr b.faults.createSession
    ((s.sessions.create now new).map fun (session, sessions) => (session, { s with sessions }))

/-- The session of an identifier. -/
def getSession (b : Backend) (s : State) (id : Uuid) : Except StoreError Session :=
  faultOr b.faults.getSession (s.sessions.get id)

/-- Sets the blocked mark of a session. -/
def setBlocked (b : Backend) (s : State) (id : Uuid) (blocked : Bool) : Except StoreError (Session × State) :=
  faultOr b.faults.updateSession
    ((s.sessions.setBlocked id blocked).map fun (session, sessions) => (session, { s with sessions }))

/-- Issues a token under the next identifier. -/
def issue (b : Backend) (now : Instant) (s : State) (userId : Uuid) (roles : List Role) (lifetime : Duration) :
    State × Except TokenError (String × Claims) :=
  ({ s with issued := s.issued + 1 },
    faultOr (b.faults.issue s.issued) (b.maker.issue now (b.ids s.issued) userId roles lifetime))

end Backend

end Gatehouse.Auth
