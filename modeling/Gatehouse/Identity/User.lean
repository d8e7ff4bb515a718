import Gatehouse.Error
import Gatehouse.Identity.Role
import Gatehouse.Json.Value
import Gatehouse.Time.Rfc3339
import Gatehouse.Uuid

/-!
# Users

The records against which logins are checked, and the store that holds them: users by name, and the roles of each
user by identifier. Names are unique, an insertion under a taken name changes nothing, and the roles of an identifier
are the list last given for it.
-/

namespace Gatehouse

/-- A user as entered: before there is an identifier. -/
structure NewUser where
  username : String
  passwordHash : String
  name : String
  email : String
  deriving DecidableEq

/-- A user of the store. -/
structure User where
  id : Uuid
  username : String
  passwordHash : String
  name : String
  email : String
  createdAt : Instant
  deriving DecidableEq

/-- The public part of a user: everything but the password hash. -/
def User.json (u : User) : Json.Value :=
  .object
    [("id", .string u.id.toString), ("username", .string u.username), ("name", .string u.name),
      ("email", .string u.email), ("created_at", .string u.createdAt.rfc3339)]

/-- The users and their roles. -/
structure UserStore where
  users : List User
  /-- The roles of identifiers; the first entry of an identifier counts. -/
  roles : List (Uuid × List Role)

namespace UserStore

/-- The store of nobody. -/
def empty : UserStore := ⟨[], []⟩

/-- The user of a name. -/
def get? (store : UserStore) (username : String) : Option User := store.users.find? (·.username = username)

/-- The user of a name, or the error that there is none. -/
def find (store : UserStore) (username : String) : Except StoreError User :=
  match store.get? username with
  | some user => .ok user
  | none => .error (.notFound ("user " ++ username))

/-- The roles of an identifier; none if it was never given any. -/
def rolesOf (store : UserStore) (id : Uuid) : List Role := (store.roles.lookup id).getD []

/-- Gives an identifier its roles, in place of those it had. -/
def setRoles (store : UserStore) (id : Uuid) (roles : List Role) : UserStore :=
  { store with roles := (id, roles) :: store.roles.filter (·.1 ≠ id) }

/-- Adds a user under a fresh identifier, unless the name is taken. -/
def insert (store : UserStore) (id : Uuid) (now : Instant) (new : NewUser) (roles : List Role) :
    Except StoreError (User × UserStore) :=
  match store.get? new.username with
  | some _ => .error (.conflict ("username " ++ new.username))
  | none =>
    let user : User :=
      { id := id, username := new.username, passwordHash := new.passwordHash, name := new.name, email := new.email,
        createdAt := now }
    .ok (user, { store with users := store.users ++ [user] }.setRoles id roles)

/-- The store of the given users, each with its fresh identifier and its roles, for which the clock is read once; it
fails at the first name that is there already. -/
def seed : Clock → UserStore → List (Uuid × NewUser × List Role) → Except StoreError UserStore
  | _, store, [] => .ok store
  | clock, store, (id, new, roles) :: rest =>
    match store.insert id (clock.reading 0) new roles with
    | .ok (_, store) => seed clock.next store rest
    | .error e => .error e

end UserStore

end Gatehouse
