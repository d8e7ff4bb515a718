import Mathlib
import Gatehouse.Policy.Source

/-!
# The built-in model

The text of the built-in model is read to a model whose matcher asks three things of a rule, in this order: that it is
for the very subject of the request, that its resource is a pattern for the one of the request, and that its action is
the one of the request or a star (`Model.ofText_default`, `Engine.ruleEffect_builtin`). A pattern is only looked at
when the subject is the same, so that a pattern that makes no expression is no harm to other subjects.
-/

namespace Gatehouse

/-- The characters of a text that is written with them; a long literal is taken apart here and not by evaluation. -/
theorem Text.toList_of_eq {s : String} {cs : List Char} (h : s = String.ofList cs) : s.toList = cs := by
  rw [h, String.toList_ofList]

namespace Policy

deriving instance DecidableEq for Assignment
deriving instance DecidableEq for Matcher.Token

namespace Matcher

/-! ## Values of matchers -/

section Eval

variable {scope : Scope} {left right : Matcher} {a b : Bool}

attribute [local simp] eval

/-- A field has the text that is given for it. -/
theorem eval_field {x s : String} (h : scope.field x = some s) : (field x).eval scope = .ok (.text s) := by
  simp only [eval, h]

/-- Two texts are compared. -/
theorem eval_eq {s t : String} (h : left.eval scope = .ok (.text s)) (hright : right.eval scope = .ok (.text t)) :
    (binary .eq left right).eval scope = .ok (.bool (decide (s = t))) := by
  simp only [eval, h, hright, operate]
  simp

/-- The right operand of a conjunction is evaluated when the left one is true, and not otherwise. -/
theorem eval_and {p q : Except PolicyFault Bool} (h : left.eval scope = p.map .bool)
    (hright : right.eval scope = q.map .bool) :
    (binary .and left right).eval scope = (p >>= fun a => if a then q else .ok false).map .bool := by
  cases p with
  | error e => simp [h, Except.map, bind, Except.bind]
  | ok a =>
    cases a with
    | false => simp [h, Except.map, bind, Except.bind]
    | true => cases q <;> simp [h, hright, Except.map, bind, Except.bind, operate]

/-- One of two operands is enough. -/
theorem eval_or (h : left.eval scope = .ok (.bool a)) (hright : right.eval scope = .ok (.bool b)) :
    (binary .or left right).eval scope = .ok (.bool (a || b)) := by
  cases a with
  | true => simp [h]
  | false => simp [h, hright, operate]

/-- The decision of a matcher whose value is a truth value, or that has none. -/
theorem holds_of_eval {m : Matcher} {p : Except PolicyFault Bool} (h : m.eval scope = p.map .bool) :
    m.holds scope = p := by
  unfold holds
  rw [h]
  cases p <;> rfl

end Eval

/-! ## The text of the model -/

/-- The matcher of the built-in model. -/
def builtin : Matcher :=
  .binary .and
    (.binary .and (.binary .eq (.field "r_sub") (.field "p_sub")) (.call "keyMatch2" [.field "r_obj", .field "p_obj"]))
    (.binary .or (.binary .eq (.field "r_act") (.field "p_act")) (.binary .eq (.field "p_act") (.text "*")))

/-- The text of the built-in matcher. -/
def builtinText : List Char :=
  "r_sub == p_sub && keyMatch2(r_obj, p_obj) && (r_act == p_act || p_act == \"*\")".toList

/-- The tokens of the built-in matcher. -/
def builtinTokens : List Token :=
  [.name "r_sub", .op .eq, .name "p_sub", .op .and, .name "keyMatch2", .opening, .name "r_obj", .comma, .name "p_obj",
    .closing, .op .and, .opening, .name "r_act", .op .eq, .name "p_act", .op .or, .name "p_act", .op .eq, .text "*",
    .closing]

/-- The built-in matcher is what its text writes. -/
theorem ofText?_builtinText : ofText? builtinText = some builtin := by
  have htokens : tokens? (builtinText.length + 1) builtinText = some builtinTokens := by decide +kernel
  have hread : readLevel (4 * builtinTokens.length + 4) 0 builtinTokens = some (builtin, []) := by rfl
  unfold ofText?
  rw [htokens]
  dsimp only
  rw [hread]

end Matcher

namespace Model

/-- The fields of a request in the built-in model. -/
def builtinRequest : List String := ["r_sub", "r_obj", "r_act"]

/-- The fields of a rule in the built-in model. -/
def builtinRule : List String := ["p_sub", "p_obj", "p_act", "p_eft"]

/-- The built-in model. -/
def builtin : Model :=
  { request := some builtinRequest
    rule := some builtinRule
    effect := some "some(where (p_eft == allow))"
    matcher := some Matcher.builtin
    groupings := [("g", 2)] }

/-- The assignments in the text of the built-in model. -/
def builtinAssignments : List Assignment :=
  [⟨"request_definition".toList, "r".toList, "sub, obj, act".toList⟩,
    ⟨"policy_definition".toList, "p".toList, "sub, obj, act, eft".toList⟩,
    ⟨"role_definition".toList, "g".toList, "_, _".toList⟩,
    ⟨"policy_effect".toList, "e".toList, "some(where (p.eft == allow))".toList⟩,
    ⟨"matchers".toList, "m".toList,
      "r.sub == p.sub && keyMatch2(r.obj, p.obj) && (r.act == p.act || p.act == \"*\")".toList⟩]

/-- These are the assignments in the text. -/
theorem assignments_default :
    assignments [] .nothing (Text.lines defaultModelText.toList) = .ok builtinAssignments := by
  unfold defaultModelText
  rw [Text.toList_of_eq rfl]
  decide +kernel

/-- A text defines what its assignments define. -/
theorem ofText_of_assignments {text : String} {as : List Assignment}
    (h : assignments [] .nothing (Text.lines text.toList) = .ok as) : ofText text = ofAssignments as := by
  unfold ofText
  rw [h]

/-- The assignments define the built-in model. -/
theorem ofAssignments_builtin : ofAssignments builtinAssignments = .ok builtin := by
  have hmatcher : expression? builtinAssignments "matchers" "m" = some Matcher.builtinText := by
    unfold builtinAssignments Matcher.builtinText
    rw [Text.toList_of_eq (s := "r_sub == p_sub && keyMatch2(r_obj, p_obj) && (r_act == p_act || p_act == \"*\")") rfl,
      Text.toList_of_eq (s := "r.sub == p.sub && keyMatch2(r.obj, p.obj) && (r.act == p.act || p.act == \"*\")") rfl]
    decide +kernel
  have hkeys : groupingKeys builtinAssignments (builtinAssignments.length + 1) 1 = [("g", "_, _".toList)] := by
    decide +kernel
  have hrequest : (definition? builtinAssignments "request_definition" "r").map (fieldNames "r") = builtin.request := by
    decide +kernel
  have hrule : (definition? builtinAssignments "policy_definition" "p").map (fieldNames "p") = builtin.rule := by
    decide +kernel
  have heffect : (expression? builtinAssignments "policy_effect" "e").map String.ofList = builtin.effect := by
    decide +kernel
  have harities : groupingArities [("g", "_, _".toList)] = .ok [("g", 2)] := by decide +kernel
  rw [ofAssignments, hmatcher, hkeys, hrequest, hrule, heffect, harities, matcher?, Matcher.ofText?_builtinText]
  rfl

/-- The text of the built-in model is read. -/
theorem ofText_default : ofText defaultModelText = .ok builtin :=
  (ofText_of_assignments assignments_default).trans ofAssignments_builtin

end Model

/-! ## Rules under the built-in model -/

namespace Engine

/-- An effect is read from its name. -/
theorem Effect.ofName_name (effect : Effect) : Effect.ofName effect.name = .ok effect := by
  cases effect <;> rfl

variable [Pattern.RegexEngine] {e : Engine}

/-- The built-in matcher compares paths with patterns by the segments of the pattern. -/
theorem call_keyMatch2 (hmodel : e.model = .builtin) (key pattern : String) :
    e.call "keyMatch2" [.text key, .text pattern] =
      match Pattern.matchesColons key.toList pattern.toList with
      | some matched => .ok (.bool matched)
      | none => .error .crash := by
  have hlookup : e.model.groupings.lookup "keyMatch2" = none := by
    rw [hmodel]
    rfl
  unfold call
  rw [hlookup]
  rfl

/-- What the built-in matcher says of the fields of a rule. -/
theorem matchesFields_builtin (hmodel : e.model = .builtin) (subject resource action s o a eft : String) :
    e.matchesFields .builtin Model.builtinRequest Model.builtinRule [subject, resource, action] [s, o, a, eft] =
      if subject = s then
        match Pattern.matchesColons resource.toList o.toList with
        | some matched => .ok (matched && (decide (action = a) || decide (a = "*")))
        | none => .error .crash
      else .ok false := by
  unfold matchesFields
  -- The values of the six fields that the matcher names.
  generalize hscope : (⟨_, e.call⟩ : Matcher.Scope) = scope
  have hrsub : scope.field "r_sub" = some subject := by subst hscope; rfl
  have hrobj : scope.field "r_obj" = some resource := by subst hscope; rfl
  have hract : scope.field "r_act" = some action := by subst hscope; rfl
  have hpsub : scope.field "p_sub" = some s := by subst hscope; rfl
  have hpobj : scope.field "p_obj" = some o := by subst hscope; rfl
  have hpact : scope.field "p_act" = some a := by subst hscope; rfl
  have hcall : scope.call = e.call := by subst hscope; rfl
  have hsubject :
      (Matcher.binary .eq (.field "r_sub") (.field "p_sub")).eval scope = .ok (.bool (decide (subject = s))) :=
    Matcher.eval_eq (Matcher.eval_field hrsub) (Matcher.eval_field hpsub)
  have hkey : (Matcher.call "keyMatch2" [.field "r_obj", .field "p_obj"]).eval scope =
      Except.map .bool (match Pattern.matchesColons resource.toList o.toList with
        | some matched => .ok matched
        | none => .error .crash) := by
    simp only [Matcher.eval, Matcher.evalArgs, hrobj, hpobj, hcall]
    rw [call_keyMatch2 hmodel resource o]
    cases Pattern.matchesColons resource.toList o.toList <;> rfl
  have hsame := Matcher.eval_eq (Matcher.eval_field hract) (Matcher.eval_field hpact)
  have htext : (Matcher.text "*").eval scope = .ok (.text "*") := by rw [Matcher.eval]
  have hstar := Matcher.eval_eq (Matcher.eval_field hpact) htext
  have hboth :=
    Matcher.eval_and (Matcher.eval_and (p := .ok _) hsubject hkey) (q := .ok _) (Matcher.eval_or hsame hstar)
  refine (Matcher.holds_of_eval hboth).trans ?_
  by_cases hs : subject = s
  · rw [if_pos hs, decide_eq_true hs]
    cases Pattern.matchesColons resource.toList o.toList with
    | none => rfl
    | some matched =>
      cases matched with
      | false => rfl
      | true => rfl
  · rw [if_neg hs, decide_eq_false hs]
    rfl

/-- The effect of a rule on a request under the built-in model. -/
theorem ruleEffect_builtin (hmodel : e.model = .builtin) (subject resource action : String) (rule : Rule) :
    e.ruleEffect .builtin Model.builtinRequest Model.builtinRule [subject, resource, action] rule =
      if subject = rule.subject then
        match Pattern.matchesColons resource.toList rule.resource.toList with
        | some matched =>
          .ok (if matched && (decide (action = rule.action) || decide (rule.action = "*")) then some rule.effect
            else none)
        | none => .error .crash
      else .ok none := by
  have heffect : effectOf Model.builtinRule rule.fields = some rule.effect := by
    change (Effect.ofName rule.effect.name).toOption = some rule.effect
    rw [Effect.ofName_name]
    rfl
  have hlength : ¬Model.builtinRule.length ≠ rule.fields.length := fun h => h rfl
  unfold ruleEffect
  rw [if_neg hlength, Rule.fields, matchesFields_builtin hmodel, ← Rule.fields, heffect]
  by_cases hsame : subject = rule.subject
  · rw [if_pos hsame, if_pos hsame]
    cases Pattern.matchesColons resource.toList rule.resource.toList with
    | none => rfl
    | some matched =>
      dsimp only
      cases matched && (decide (action = rule.action) || decide (rule.action = "*")) with
      | false => rfl
      | true => rfl
  · rw [if_neg hsame, if_neg hsame]

end Engine

end Policy

end Gatehouse
