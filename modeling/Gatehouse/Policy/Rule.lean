import Gatehouse.Error
import Gatehouse.Identity.Role
import Gatehouse.Text.Blank

/-!
# Rules and groupings

A rule gives a subject an effect on a resource for an action; a grouping gives a subject a role. Both are read from
lines of text, `p, subject, resource, action[, effect]` and `g, subject, role`, where a line that repeats an earlier
one adds nothing.
-/

namespace Gatehouse.Policy

/-- What a rule does to the requests that it matches. -/
inductive Effect
  | allow
  | deny
  deriving DecidableEq

/-- The word for an effect. -/
def Effect.name : Effect → String
  | .allow => "allow"
  | .deny => "deny"

/-- The effect that a word stands for. -/
def Effect.ofName (s : String) : Except ServiceError Effect :=
  if s = Effect.name .allow then .ok .allow
  else if s = Effect.name .deny then .ok .deny
  else .error (.configuration ("Unknown policy effect '" ++ s ++ "'"))

/-- A permission. -/
structure Rule where
  subject : String
  resource : String
  action : String
  effect : Effect
  deriving DecidableEq

/-- The columns of a rule. -/
def Rule.fields (r : Rule) : List String := [r.subject, r.resource, r.action, r.effect.name]

/-- Whether two rules are about the same subject, resource and action. -/
def Rule.sameTarget (r s : Rule) : Bool :=
  r.subject = s.subject && r.resource = s.resource && r.action = s.action

/-- The association of a subject with a role. -/
structure Grouping where
  subject : String
  role : Role
  deriving DecidableEq

/-- The rules and groupings that an engine starts with, in the order of their text. -/
structure RuleSet where
  rules : List Rule
  groupings : List Grouping
  deriving DecidableEq

namespace RuleSet

/-- No rules and no groupings. -/
def empty : RuleSet := ⟨[], []⟩

/-- Adds a rule that names subject, resource and action, unless there is one about the same. -/
def addRule (set : RuleSet) (r : Rule) : RuleSet :=
  if r.subject = "" || r.resource = "" || r.action = "" || set.rules.any (·.sameTarget r) then set
  else { set with rules := set.rules ++ [r] }

/-- Adds a grouping that is not there yet. -/
def addGrouping (set : RuleSet) (g : Grouping) : RuleSet :=
  if g ∈ set.groupings then set else { set with groupings := set.groupings ++ [g] }

/-- The fields of a line, which commas divide, without the blanks around them. -/
def fields (line : List Char) : List String :=
  (Text.splitOn ',' line).map fun field => String.ofList (Text.trim field)

/-- Adds the line of a number. Blank lines and comments say nothing, nor do rules and groupings with too few or too
many fields. -/
def addLine (set : RuleSet) (number : Nat) (line : List Char) : Except ServiceError RuleSet :=
  let line := Text.trim line
  if line.isEmpty || line.head? = some '#' then .ok set
  else
    match fields line with
    | ["p", subject, resource, action] => .ok (set.addRule ⟨subject, resource, action, .allow⟩)
    | ["p", subject, resource, action, effect] =>
      (Effect.ofName effect).map fun effect => set.addRule ⟨subject, resource, action, effect⟩
    | ["g", subject, role] => .ok (set.addGrouping ⟨subject, ⟨role⟩⟩)
    | "p" :: _ | "g" :: _ => .ok set
    | kind :: _ =>
      .error (.configuration ("Unknown policy type '" ++ kind ++ "' on line " ++ toString number))
    | [] => .ok set

/-- Adds lines, the first of which has a number; it fails at the first line that is no line of a policy. -/
def addLines (set : RuleSet) (number : Nat) : List (List Char) → Except ServiceError RuleSet
  | [] => .ok set
  | line :: rest =>
    match set.addLine number line with
    | .ok set => set.addLines (number + 1) rest
    | .error e => .error e

/-- The rules and groupings of a text. -/
def ofText (text : String) : Except ServiceError RuleSet := empty.addLines 1 (Text.lines text.toList)

end RuleSet

end Gatehouse.Policy
