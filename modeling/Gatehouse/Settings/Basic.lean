import Gatehouse.Error
import Gatehouse.Text.Quoted
import Gatehouse.Token.Maker

/-!
# Settings

What the service is set up with, the checks that its values pass before anything else is built from them, and the
text in which logs show them. The token key and the password hashes never reach that text.
-/

namespace Gatehouse

namespace Settings

/-- Where the service listens. -/
structure Server where
  host : String
  port : UInt16
  deriving DecidableEq

/-- How much is logged. -/
structure Logging where
  level : String
  deriving DecidableEq

/-- How tokens are made, and for how many seconds they last. -/
structure Token where
  symmetricKey : String
  accessSeconds : Int
  refreshSeconds : Int
  issuer : String
  audience : String
  deriving DecidableEq

/-- The files of rules and model. -/
structure Policy where
  policyPath : String
  modelPath : String
  deriving DecidableEq

/-- A user who is there from the start. -/
structure SeedUser where
  username : String
  passwordHash : String
  name : String
  email : String
  roles : List String
  deriving DecidableEq

end Settings

/-- What the service is set up with. -/
structure Settings where
  server : Settings.Server
  logging : Settings.Logging
  token : Settings.Token
  policy : Settings.Policy
  users : List Settings.SeedUser
  deriving DecidableEq

namespace Settings

/-- The address to listen on. -/
def Server.address (s : Server) : String := s.host ++ ":" ++ toString s.port.toNat

/-! ## Checks -/

/-- The longest time that a token may last: a leap year. -/
def maxSeconds : Int := 31622400

/-- Whether a token may last for so many seconds. -/
def isLifetime (seconds : Int) : Bool := 1 ≤ seconds && seconds ≤ maxSeconds

/-- The error that a lifetime is not allowed. -/
def lifetimeError (name : String) : CoreError :=
  .configuration ("token." ++ name ++ " must be between 1 and " ++ toString maxSeconds)

/-- Checks the length of the key, and then how long tokens last. -/
def Token.validate (t : Token) : Except CoreError Unit :=
  if t.symmetricKey.utf8ByteSize ≠ TokenMaker.keySize then
    .error (.configuration ("token.symmetric_key must be exactly " ++ toString TokenMaker.keySize ++ " bytes"))
  else if !isLifetime t.accessSeconds then .error (lifetimeError "access_token_duration_secs")
  else if !isLifetime t.refreshSeconds then .error (lifetimeError "refresh_token_duration_secs")
  else .ok ()

/-- Checks what the types of the settings leave open. -/
def validate (s : Settings) : Except CoreError Unit := s.token.validate

/-! ## Text for logs -/

/-- A structure with its fields, as logs show it. -/
def shownFields (name : String) (fields : List (String × String)) : String :=
  name ++ " \x7b " ++ ", ".intercalate (fields.map fun (key, value) => key ++ ": " ++ value) ++ " \x7d"

/-- A list, as logs show it. -/
def shownList (items : List String) : String := "[" ++ ", ".intercalate items ++ "]"

/-- What logs show in place of a secret. -/
def redacted : String := Text.quoted "<redacted>"

@[inherit_doc shownFields]
def Server.shown (s : Server) : String :=
  shownFields "ServerConfig" [("host", Text.quoted s.host), ("port", toString s.port.toNat)]

@[inherit_doc shownFields]
def Logging.shown (l : Logging) : String := shownFields "LoggingConfig" [("level", Text.quoted l.level)]

@[inherit_doc shownFields]
def Token.shown (t : Token) : String :=
  shownFields "TokenConfig"
    [("symmetric_key", redacted), ("access_token_duration_secs", toString t.accessSeconds),
      ("refresh_token_duration_secs", toString t.refreshSeconds), ("issuer", Text.quoted t.issuer),
      ("audience", Text.quoted t.audience)]

@[inherit_doc shownFields]
def Policy.shown (p : Policy) : String :=
  shownFields "PolicyConfig" [("policy_path", Text.quoted p.policyPath), ("model_path", Text.quoted p.modelPath)]

@[inherit_doc shownFields]
def SeedUser.shown (u : SeedUser) : String :=
  shownFields "SeedUserConfig"
    [("username", Text.quoted u.username), ("password_hash", redacted), ("name", Text.quoted u.name),
      ("email", Text.quoted u.email), ("roles", shownList (u.roles.map Text.quoted))]

/-- The settings, as logs show them. -/
def shown (s : Settings) : String :=
  shownFields "Settings"
    [("server", s.server.shown), ("logging", s.logging.shown), ("token", s.token.shown), ("policy", s.policy.shown),
      ("users", shownList (s.users.map SeedUser.shown))]

end Settings

end Gatehouse
