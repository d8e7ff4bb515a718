import Gatehouse.Http.Service
import Gatehouse.Policy.Source
import Gatehouse.Settings.Load

/-!
# Starting up

From files and an environment to a service that is ready to listen: the settings, the token maker, the users who are
there from the start, the policy engine and the terms of authentication, in this order. The first that cannot be had
ends the start.
-/

namespace Gatehouse

/-- Why the service does not start. -/
inductive StartupError
  | settings (e : SettingsError)
  /-- A variable of this program is no text. -/
  | environment (name : String) (value : List UInt8)
  | users (e : StoreError)
  | service (e : ServiceError)

/-- The error in words. -/
def StartupError.message : StartupError → String
  | .settings e => e.message
  | .environment name value =>
    "env variable " ++ Text.quoted name ++ " contains non-Unicode data: " ++ Text.quotedBytes value
  | .users e => e.message
  | .service e => e.message

/-- What a start is given: the clock, and the identifiers that will be drawn for users and for tokens. -/
structure Startup where
  clock : Clock
  userIds : Nat → Uuid
  tokenIds : Nat → Uuid

/-- A service, and the address that it is to listen on. -/
structure Ready where
  address : String
  service : Http.Service

namespace Settings

/-- The user to enter into the store. -/
def SeedUser.toNewUser (u : SeedUser) : NewUser :=
  { username := u.username, passwordHash := u.passwordHash, name := u.name, email := u.email }

/-- The token maker of the settings. -/
def Token.maker (t : Token) : Except TokenError TokenMaker :=
  TokenMaker.ofKey (Text.Utf8.ofString t.symmetricKey) t.issuer t.audience

/-- Where the settings say that rules and model are. -/
def Policy.source (p : Policy) : Gatehouse.Policy.Source := ⟨p.policyPath, some p.modelPath⟩

/-- The terms of authentication that the settings give. -/
def Token.flow (t : Token) (backend : Auth.Backend) : Except ServiceError Auth.Flow :=
  Auth.Flow.ofSeconds backend t.accessSeconds t.refreshSeconds

/-- The settings of some files and a block of environment variables. The settings file is looked at first. -/
def ofBlock (files : Files) (block : List UInt8) : Except StartupError Settings := do
  let _ ← (ofFiles files).mapError .settings
  let env := Environment.ofBlock block
  match unreadable? (fullEnvironment files env) block with
  | some (name, value) => .error (.environment name value)
  | none => (load files env).mapError .settings

end Settings

namespace Startup

/-- What is entered for the users who are there from the start. -/
def entries (start : Startup) (users : List Settings.SeedUser) : List (Uuid × NewUser × List Role) :=
  users.zipIdx.map fun (u, i) => (start.userIds i, u.toNewUser, u.roles.map fun role => ⟨role⟩)

/-- The store of the users who are there from the start. -/
def seed (start : Startup) (users : List Settings.SeedUser) : Except StoreError UserStore :=
  UserStore.seed start.clock .empty (start.entries users)

/-- The service of some settings. -/
def serve (start : Startup) (files : Files) (s : Settings) : Except StartupError Ready := do
  let maker ← s.token.maker.mapError fun e => .service (.token e)
  let users ← (start.seed s.users).mapError .users
  let engine ← (Policy.Engine.ofSource files s.policy.source).mapError .service
  let flow ← (s.token.flow ⟨maker, start.tokenIds, {}⟩).mapError .service
  return {
    address := s.server.address
    service :=
      { auth := .initial users
        components := { maker := some maker, engine := some engine, flow := some flow } } }

/-- The service of some files and an environment. -/
def run (start : Startup) (files : Files) (env : Environment) : Except StartupError Ready := do
  let s ← (Settings.load files env).mapError .settings
  start.serve files s

end Startup

end Gatehouse
