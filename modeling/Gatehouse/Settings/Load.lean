import Gatehouse.Settings.Document
import Gatehouse.Settings.EnvironmentFile
import Gatehouse.Settings.Field

/-!
# Loading settings

Settings come in three layers: what is built in, then the settings file, then the environment, to which the environment
file adds the variables that are not set. Each setting is taken from the last layer that gives it. What comes out is
checked.
-/

namespace Gatehouse.Settings

/-- The values that are built in; there is none for the token key. -/
def defaults : List (String × Tree) :=
  let text (s : String) : Tree := .scalar none (.text s)
  let number (n : Int) : Tree := .scalar none (.integer n)
  [("server.host", text "0.0.0.0"), ("server.port", number 8080), ("logging.level", text "debug"),
    ("token.access_token_duration_secs", number 900), ("token.refresh_token_duration_secs", number 86400),
    ("token.issuer", text "scoreit-api"), ("token.audience", text "scoreit-app"),
    ("policy.policy_path", text "authz_policy.csv"), ("policy.model_path", text "authz_model.conf")]

/-- The environment file. -/
def environmentFile : String := ".env"

/-- The environment with the variables of the environment file. -/
def fullEnvironment (files : Files) (env : Environment) : Environment :=
  match files.content? environmentFile with
  | some bytes => EnvironmentFile.load env bytes
  | none => env

/-- All layers over each other. -/
def layers (file : List (String × Tree)) (env : Environment) : Tree :=
  ((Tree.empty.putAll defaults).putAll file).putAll (ofEnvironment env)

/-- The settings of some files and an environment. -/
def load (files : Files) (env : Environment) : Except SettingsError Settings :=
  match ofFiles files with
  | .error e => .error e
  | .ok file =>
    match ofTree (layers file (fullEnvironment files env)) with
    | .error e => .error e
    | .ok s =>
      match s.validate with
      | .error e => .error (.refused e)
      | .ok () => .ok s

end Gatehouse.Settings
