import Gatehouse.Policy.Matcher
import Gatehouse.Policy.Rule
import Gatehouse.Text.Blank
import Gatehouse.Text.Quoted

/-!
# Policy models

What a policy means: the fields of requests and rules, the matcher, and how the effects of matching rules combine to
a decision. A model is written as sections of assignments; what a section defines more than once it defines by the
last assignment, and what no section defines is only missed when a request needs it.
-/

namespace Gatehouse.Policy

/-! ## Sections -/

/-- An assignment of a model text. -/
structure Assignment where
  heading : List Char
  key : List Char
  value : List Char

/-- The section of the assignments before the first section line. -/
def defaultSection : List Char := "default".toList

/-- Whether a line says nothing. -/
def isRemark (line : List Char) : Bool := line.isEmpty || line.head? = some '#' || line.head? = some ';'

/-- The name in a section line. -/
def sectionName? (line : List Char) : Option (List Char) :=
  if line.head? = some '[' && line.getLast? = some ']' then some (line.tail.dropLast) else none

/-- A line that is no assignment. -/
def malformedLine (line : List Char) : PolicyError :=
  .io ("Custom \x7b kind: Other, error: " ++ Text.quoted ("parse content error, line=" ++ String.ofList line) ++ " \x7d")

/-- An assignment, divided at its first equals sign. -/
def assignment (heading line : List Char) : Except PolicyError Assignment :=
  match Text.cutAt? '=' line with
  | some (key, value) =>
    .ok ⟨if heading.isEmpty then defaultSection else heading, Text.trim key, Text.trim value⟩
  | none => .error (malformedLine line)

/-- A line that is being put together. -/
inductive Pending
  | nothing
  /-- The line goes on in the next one. A section line that was met in between comes into force after it. -/
  | open (line : List Char) (next : Option (List Char))

/-- Whether a line goes on in the next one, and what it is without the sign for that. -/
def continued? (line : List Char) : Option (List Char) :=
  if line.getLast? = some '\\' then some (Text.trimEnd line.dropLast) else none

/-- The assignments of some lines, in a section. -/
def assignments (heading : List Char) (pending : Pending) : List (List Char) → Except PolicyError (List Assignment)
  | [] =>
    match pending with
    | .nothing => .ok []
    | .open line _ => (assignment heading line).map fun a => [a]
  | text :: rest =>
    let text := Text.trim text
    let finish (line : List Char) (next : Option (List Char)) : Except PolicyError (List Assignment) :=
      match assignment heading line with
      | .error e => .error e
      | .ok a => (assignments (next.getD heading) .nothing rest).map fun others => a :: others
    let goOn (line : List Char) (next : Option (List Char)) : Except PolicyError (List Assignment) :=
      match continued? line with
      | some line => assignments heading (.open line next) rest
      | none => finish line next
    match pending with
    | .nothing =>
      if isRemark text then assignments heading .nothing rest
      else
        match sectionName? text with
        | some name => assignments name .nothing rest
        | none => goOn text none
    | .open line next =>
      if isRemark text then goOn line next
      else
        match sectionName? text with
        | some name => goOn line (if name.isEmpty then none else some name)
        | none => goOn (line ++ text) next

/-- What a section assigns to a key; the remark after it, from the first hash sign, is no part of it, and nothing at
all is no definition. -/
def definition? (as : List Assignment) (heading key : String) : Option (List Char) :=
  match as.reverse.find? fun a => a.heading = heading.toList && a.key = key.toList with
  | some a =>
    let value := Text.trimEnd (a.value.takeWhile (· ≠ '#'))
    if value.isEmpty then none else some value
  | none => none

/-- The names of fields, which commas divide, as the matcher names them. -/
def fieldNames (kind : String) (value : List Char) : List String :=
  (Text.splitOn ',' value).map fun name => kind ++ "_" ++ String.ofList (Text.trim name)

/-- A text in which the dot after the word `r` or `p`, or one of them with a number, is made an underscore. With `inWord`
the character before is part of a word. -/
def joinFields (inWord : Bool) : (fuel : Nat) → List Char → List Char
  | 0, s => s
  | _, [] => []
  | fuel + 1, c :: rest =>
    let digits := rest.takeWhile Pattern.CharSet.digits.contains
    if !inWord && (c = 'r' || c = 'p') then
      match rest.drop digits.length with
      | '.' :: after => c :: digits ++ '_' :: joinFields false fuel after
      | _ => c :: joinFields true fuel rest
    else c :: joinFields (Pattern.CharSet.word.contains c) fuel rest

/-- A defined expression. -/
def expression? (as : List Assignment) (heading key : String) : Option (List Char) :=
  (definition? as heading key).map fun value => joinFields false value.length value

/-! ## Effects -/

/-- How the effects of the rules that match a request decide it. -/
inductive Combination
  /-- One that allows is enough. -/
  | anyAllow
  /-- One that allows is enough if none denies. -/
  | allowUnlessDenied
  /-- It is enough that none denies. -/
  | noDeny
  /-- The first that has an effect decides. -/
  | firstEffect
  deriving DecidableEq

namespace Combination

/-- The combination that an effect expression asks for. -/
def ofText? (s : String) : Option Combination :=
  if s = "some(where (p_eft == allow))" then some .anyAllow
  else if s = "some(where (p_eft == allow)) && !some(where (p_eft == deny))" then some .allowUnlessDenied
  else if s = "!some(where (p_eft == deny))" then some .noDeny
  else if s = "priority(p_eft) || deny" then some .firstEffect
  else none

/-- The decision when no rule has an effect. -/
def initially : Combination → Bool
  | .noDeny => true
  | _ => false

/-- The decision after one more rule with an effect, and whether it is final. -/
def after : Combination → Bool → Policy.Effect → Bool × Bool
  | .anyAllow, decision, .deny => (decision, false)
  | .anyAllow, _, .allow => (true, true)
  | .allowUnlessDenied, _, .allow => (true, false)
  | .allowUnlessDenied, _, .deny => (false, true)
  | .noDeny, decision, .allow => (decision, false)
  | .noDeny, _, .deny => (false, true)
  | .firstEffect, _, effect => (effect = .allow, true)

end Combination

/-! ## Models -/

/-- A policy model. -/
structure Model where
  /-- The fields of a request. -/
  request : Option (List String)
  /-- The fields of a rule. -/
  rule : Option (List String)
  /-- The text of the effect expression. -/
  effect : Option String
  matcher : Option Matcher
  /-- The functions that look up groupings, with the number of their arguments. -/
  groupings : List (String × Nat)

namespace Model

/-- The grouping functions from a key on: `g`, `g2`, `g3`, as long as they are defined. -/
def groupingKeys (as : List Assignment) : (fuel : Nat) → (index : Nat) → List (String × List Char)
  | 0, _ => []
  | fuel + 1, index =>
    let key := if index = 1 then "g" else "g" ++ toString index
    match expression? as "role_definition" key with
    | some value => (key, value) :: groupingKeys as fuel (index + 1)
    | none => []

/-- The number of arguments that a grouping function is defined with. -/
def groupingArity (value : List Char) : Except PolicyError Nat :=
  let n := value.count '_'
  if n = 2 ∨ n = 3 then .ok n
  else .error (.model "P(\"the number of \\\"_\\\" in role definition should be at least 2\")")

/-- The grouping functions with their numbers of arguments. -/
def groupingArities : List (String × List Char) → Except PolicyError (List (String × Nat))
  | [] => .ok []
  | (key, value) :: rest =>
    match groupingArity value with
    | .error e => .error e
    | .ok n => (groupingArities rest).map fun others => (key, n) :: others

/-- The matcher of a definition, if there is one. -/
def matcher? : Option (List Char) → Except PolicyError (Option Matcher)
  | none => .ok none
  | some text =>
    match Matcher.ofText? text with
    | some m => .ok (some m)
    | none => .error .matcher

/-- The model that assignments define. -/
def ofAssignments (as : List Assignment) : Except PolicyError Model :=
  match matcher? (expression? as "matchers" "m") with
  | .error e => .error e
  | .ok matcher =>
    (groupingArities (groupingKeys as (as.length + 1) 1)).map fun groupings =>
      { request := (definition? as "request_definition" "r").map (fieldNames "r"),
        rule := (definition? as "policy_definition" "p").map (fieldNames "p"),
        effect := (expression? as "policy_effect" "e").map String.ofList, matcher, groupings }

/-- The model that a text writes. -/
def ofText (text : String) : Except PolicyError Model :=
  match assignments [] .nothing (Text.lines text.toList) with
  | .error e => .error e
  | .ok as => ofAssignments as

end Model

end Gatehouse.Policy
