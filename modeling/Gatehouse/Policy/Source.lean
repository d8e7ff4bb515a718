import Gatehouse.Files
import Gatehouse.Policy.Default
import Gatehouse.Policy.Engine
import Gatehouse.Text.Utf8

/-!
# Where rules and model come from

A source names a file for the rules and may name one for the model. A file that is not there is replaced by the
built-in text.
-/

namespace Gatehouse.Policy

/-- The files of a policy. -/
structure Source where
  rulesPath : String
  modelPath : Option String

/-- The text of a file, or a text in its place when there is no file. -/
def readOr (files : Files) (path kind fallback : String) : Except ServiceError String :=
  match files.content? path with
  | none => .ok fallback
  | some bytes =>
    match Text.Utf8.decodeString? bytes with
    | some text => .ok text
    | none =>
      .error (.configuration
        ("Failed to read " ++ kind ++ " file " ++ path ++ ": stream did not contain valid UTF-8"))

namespace Source

/-- The rules of a source. -/
def rules (source : Source) (files : Files) : Except ServiceError RuleSet :=
  readOr files source.rulesPath "policy" defaultRulesText >>= RuleSet.ofText

/-- The text of the model of a source. -/
def modelText (source : Source) (files : Files) : Except ServiceError String :=
  match source.modelPath with
  | some path => readOr files path "model" defaultModelText
  | none => .ok defaultModelText

end Source

namespace Engine

/-- The engine of a model text and of rules, which are only asked for once there is a model. -/
def build (modelText : Except ServiceError String) (rules : Unit → Except ServiceError RuleSet) :
    Except ServiceError Engine := do
  let model ← (Model.ofText (← modelText)).mapError .policy
  (new model (← rules ())).mapError .policy

/-- The engine of a source. -/
def ofSource (files : Files) (source : Source) : Except ServiceError Engine :=
  build (source.modelText files) fun () => source.rules files

end Engine

end Gatehouse.Policy
