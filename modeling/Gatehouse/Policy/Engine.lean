import Gatehouse.Policy.Model

/-!
# The policy engine

Decides whether a subject may do something with a resource. A subject is first checked under its own name and then
under each role that it is grouped with; the first that is allowed decides. Groupings are added while the engine is in
use, and rules are not.
-/

namespace Gatehouse.Policy

/-- A model with its rules and groupings, each in order and once. -/
structure Engine where
  model : Model
  rules : List Rule
  groupings : List Grouping

namespace Engine

variable [Pattern.RegexEngine]

/-! ## Groupings -/

/-- The number of steps that are followed from grouping to grouping. -/
def linkDepth : Nat := 10

/-- The names that some names are grouped with in at most `depth` steps, and themselves. -/
def reachable (links : List Grouping) : (depth : Nat) → List String → List String
  | 0, names => names
  | depth + 1, names =>
    let next := links.filterMap fun g => if g.subject ∈ names then some g.role.name else none
    reachable links depth (names ++ (next.filter (· ∉ names)).eraseDups)

/-- The value of a grouping function with a number of arguments: whether the first argument is the second or is grouped
with it. Only the function `g` of two arguments knows groupings. -/
def callGrouping (e : Engine) (name : String) (arity : Nat) (args : List Matcher.Value) :
    Except PolicyFault Matcher.Value :=
  let links := if name = "g" ∧ arity = 2 then e.groupings else []
  match args with
  | .text a :: .text b :: rest =>
    if rest.length + 2 = arity && rest.all (fun v => match v with | .text _ => true | _ => false) then
      .ok (.bool (decide (b ∈ reachable links linkDepth [a])))
    else Matcher.noValue
  | _ => Matcher.noValue

/-- The value of a call in the engine's matcher. -/
def call (e : Engine) (name : String) (args : List Matcher.Value) : Except PolicyFault Matcher.Value :=
  match e.model.groupings.lookup name with
  | some arity => e.callGrouping name arity args
  | none => Matcher.callKeyFunction name args

/-- The number of fields that the model asks of a grouping; none if it has no groupings. -/
def groupingFields (m : Model) : Option Nat := m.groupings.lookup "g"

/-- Adds groupings, all or none: none when the model has no groupings or one of them is there. A model with groupings of
more fields than two keeps them, but reports that they do not fit. -/
def register (e : Engine) (new : List Grouping) : Engine × Except PolicyError Unit :=
  match groupingFields e.model with
  | none => (e, .ok ())
  | some n =>
    if new.isEmpty || new.any (· ∈ e.groupings) then (e, .ok ())
    else
      ({ e with groupings := e.groupings ++ new.eraseDups },
        if n ≤ 2 then .ok () else .error (.policy ("UnmatchPolicyDefinition(" ++ toString n ++ ", 2)")))

/-- The groupings of a subject, in order; the empty subject stands for every one. -/
def groupingsOf (e : Engine) (subject : String) : List Grouping :=
  e.groupings.filter fun g => subject = "" || g.subject = subject

/-- The roles of a subject, in the order of their registration. -/
def rolesFor (e : Engine) (subject : String) : List Role := (e.groupingsOf subject).map (·.role)

/-- The groupings that give a subject those of some roles that it does not have, in ascending order. -/
def missing (e : Engine) (subject : String) (roles : List Role) : List Grouping :=
  ((Role.sorted roles).map fun role => ⟨subject, role⟩).filter (· ∉ e.groupings)

/-- Makes a subject have each of some roles. -/
def ensureRoles (e : Engine) (subject : String) (roles : List Role) : Engine × Except PolicyError Unit :=
  e.register (e.missing subject roles)

/-! ## Decisions -/

/-- The number of fields of a request. -/
def requestSize : Nat := 3

/-- The value of a field; of several fields of one name, the last. -/
def fieldValue (names fields : List String) (name : String) : Option String :=
  (names.zip fields).reverse.lookup name

/-- What the matcher says of a request, with the values of the fields of a rule. -/
def matchesFields (e : Engine) (matcher : Matcher) (requestNames ruleNames request fields : List String) :
    Except PolicyFault Bool :=
  matcher.holds
    { field := fun name => (fieldValue ruleNames fields name).or (fieldValue requestNames request name), call := e.call }

/-- The effect of a rule that matches: what its effect field says, and that it allows if there is no such field. -/
def effectOf (ruleNames fields : List String) : Option Effect :=
  match (ruleNames.zip fields).lookup "p_eft" with
  | none => some .allow
  | some word => (Effect.ofName word).toOption

/-- The decision of rules in turn, of which the later ones are not looked at once it is final. -/
def decideRules (combination : Combination) (effect : Rule → Except PolicyFault (Option Effect)) (decision : Bool) :
    List Rule → Except PolicyFault Bool
  | [] => .ok decision
  | rule :: rest =>
    match effect rule with
    | .error e => .error e
    | .ok none => decideRules combination effect decision rest
    | .ok (some eft) =>
      let (decision, final) := combination.after decision eft
      if final then .ok decision else decideRules combination effect decision rest

/-- The effect of a rule on a request, when it matches. -/
def ruleEffect (e : Engine) (matcher : Matcher) (requestNames ruleNames request : List String) (rule : Rule) :
    Except PolicyFault (Option Effect) :=
  if ruleNames.length ≠ rule.fields.length then
    .error (.error (.policy
      ("UnmatchPolicyDefinition(" ++ toString ruleNames.length ++ ", " ++ toString rule.fields.length ++ ")")))
  else
    match e.matchesFields matcher requestNames ruleNames request rule.fields with
    | .error f => .error f
    | .ok false => .ok none
    | .ok true => .ok (effectOf ruleNames rule.fields)

/-- A part of the model that a request needs. -/
def needed (part : Option α) (letter what : String) : Except PolicyFault α :=
  match part with
  | some a => .ok a
  | none => .error (.error (.model (letter ++ "(\"Missing " ++ what ++ " definition in conf file\")")))

/-- Whether the rules allow a subject under this very name. Without rules, the matcher decides alone, once, all fields
of a rule being empty. -/
def enforceAs (e : Engine) (subject resource action : String) : Except PolicyFault Bool := do
  let requestNames ← needed e.model.request "R" "request"
  let ruleNames ← needed e.model.rule "P" "policy"
  let matcher ← needed e.model.matcher "M" "matcher"
  let effect ← needed e.model.effect "E" "effector"
  let request := [subject, resource, action]
  if requestNames.length ≠ requestSize then
    .error (.error (.request
      ("UnmatchRequestDefinition(" ++ toString requestNames.length ++ ", " ++ toString requestSize ++ ")")))
  else
    match Combination.ofText? effect with
    | none => .error .crash
    | some combination =>
      if e.rules.isEmpty then
        let fields := ruleNames.map fun _ => ""
        (e.matchesFields matcher requestNames ruleNames request fields).map fun allowed =>
          if allowed then (combination.after combination.initially .allow).1 else combination.initially
      else
        decideRules combination (e.ruleEffect matcher requestNames ruleNames request) combination.initially e.rules

/-- Whether one of some names is allowed; the names after it are not looked at. -/
def enforceAny (e : Engine) (resource action : String) : List String → Except PolicyFault Bool
  | [] => .ok false
  | name :: rest =>
    match e.enforceAs name resource action with
    | .error f => .error f
    | .ok true => .ok true
    | .ok false => e.enforceAny resource action rest

/-- Whether a subject may do something with a resource, by its own name or by a role. -/
def enforce (e : Engine) (subject resource action : String) : Except PolicyFault Bool :=
  e.enforceAny resource action (subject :: (e.rolesFor subject).map (·.name))

/-! ## Set-up -/

/-- The engine of a model with a set of rules. -/
def new (model : Model) (set : RuleSet) : Except PolicyError Engine :=
  let rules := if model.rule.isSome then set.rules.eraseDups else []
  let (e, result) := register ⟨model, rules, []⟩ set.groupings
  result.map fun () => e

end Engine

end Gatehouse.Policy
