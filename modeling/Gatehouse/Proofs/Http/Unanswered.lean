import Mathlib
import Gatehouse.Proofs.Http.Whoami
import Gatehouse.Proofs.Policy.Consulted

/-!
# Requests without an answer

The patterns of a policy are not looked at when its engine is built, but when a decision comes to their rules. A pattern
that makes no expression then crashes the evaluation, and a guarded request is left without an answer
(`Policy.Engine.enforce_eq_crash_iff`, `handle_whoami_eq_none_iff`). This is the only way in which there is no decision.
-/

namespace Gatehouse.Http

section Answer

variable [Pattern.RegexEngine]
variable {maker : TokenMaker} {engine : Policy.Engine} {flow : Auth.Flow} {now : Instant} {request : Request}

/-- What is answered to verified claims: the decision of the policy, once the roles in them are registered; and nothing
when the evaluation of the policy crashes. -/
theorem authorize_eq_crashed_iff (hmodel : engine.model = .builtin) (c : Components) (claims : Claims)
    (request : Request) :
    (c.authorize engine claims request).2 = .crashed ↔
      (registered engine claims).enforce claims.userId.toString request.path request.method = .error .crash := by
  have hregistered : engine.ensureRoles claims.userId.toString claims.roles = (registered engine claims, .ok ()) :=
    Prod.ext rfl (by rw [Policy.Engine.ensureRoles_builtin hmodel])
  unfold Components.authorize
  dsimp only
  rw [hregistered]
  dsimp only
  generalize (registered engine claims).enforce claims.userId.toString request.path request.method = decision
  rcases decision with (e | _) | (_ | _)
  · simp
  · simp
  · simp
  · simp

/-- A request for the identity of its caller is left without an answer exactly when its token verifies and the decision
on the token crashes. -/
theorem handle_whoami_eq_none_iff {service : Service} (hcomponents : service.components = .of maker engine flow)
    (hmodel : engine.model = .builtin) (hroute : request.route = .ok .whoami) :
    (service.handle now request).response = none ↔
      ∃ token claims, request.Bears token ∧ maker.verify now token = .ok claims ∧
        (registered engine claims).enforce claims.userId.toString request.path request.method = .error .crash := by
  by_cases hunauthenticated : request.Unauthenticated maker now
  · obtain ⟨verified, hhandled, -⟩ := handle_of_unauthenticated hcomponents hroute hunauthenticated
    rw [hhandled]
    refine ⟨nofun, ?_⟩
    rintro ⟨token, claims, hbears, hverify, -⟩
    exact absurd hverify (hunauthenticated.not_verified hbears claims)
  · obtain ⟨token, claims, hbears, hverify⟩ := Request.authenticated_iff.1 hunauthenticated
    have hcredential := Request.credential_of_bears hbears
    have hresponse : (service.handle now request).response = none ↔
        ((Components.of maker engine flow).authorize engine claims request).2 = .crashed := by
      unfold Service.handle
      rw [hroute]
      dsimp only
      unfold Service.whoami
      rw [hcomponents, guard_of_verified hcredential hverify]
      dsimp only
      cases ((Components.of maker engine flow).authorize engine claims request).2 <;> simp
    rw [hresponse, authorize_eq_crashed_iff hmodel]
    constructor
    · intro hcrash
      exact ⟨token, claims, hbears, hverify, hcrash⟩
    · rintro ⟨token', claims', hbears', hverify', hcrash⟩
      obtain rfl := Except.ok.inj (hcredential.symm.trans (Request.credential_of_bears hbears'))
      obtain rfl := Except.ok.inj (hverify.symm.trans hverify')
      exact hcrash

end Answer

open Policy (Call)

/-- Let an engine of the built-in model be built from a text. After every run a decision crashes exactly when it comes to
a leading rule of the text whose pattern makes no expression, and else it is made; so every decision is made when all
patterns of the text make expressions. A guarded request is left without an answer exactly when its token verifies and
the decision on the token, whose roles are registered first, comes to such a rule. -/
theorem crashes_iff_comesTo [Pattern.RegexEngine] [Pattern.LawfulRegexEngine] {text : String} {engine : Policy.Engine}
    (hbuild : Policy.Engine.build (.ok Policy.defaultModelText) (fun () => Policy.RuleSet.ofText text) = .ok engine)
    (calls : List Call) :
    (∀ subject resource action : String,
      ((engine.run calls).enforce subject resource action = .error .crash ↔
        ∃ rule : Policy.Rule, rule.Leads (Policy.RuleSet.statedRules text) ∧
          (engine.run calls).ComesTo subject resource action rule ∧ ¬Pattern.Compiles rule.resource) ∧
      ((engine.run calls).enforce subject resource action ≠ .error .crash →
        ∃ allowed, (engine.run calls).enforce subject resource action = .ok allowed) ∧
      ((∀ rule ∈ Policy.RuleSet.statedRules text, Pattern.Compiles rule.resource) →
        ∃ allowed, (engine.run calls).enforce subject resource action = .ok allowed)) ∧
    ∀ (maker : TokenMaker) (flow : Auth.Flow) (service : Service) (now : Instant) (request : Request),
      service.components = .of maker (engine.run calls) flow → request.route = .ok .whoami →
      ((service.handle now request).response = none ↔
        ∃ token claims, request.Bears token ∧ maker.verify now token = .ok claims ∧
          let subject := claims.userId.toString
          ∃ rule : Policy.Rule, rule.Leads (Policy.RuleSet.statedRules text) ∧
            (engine.run (calls ++ [.ensureRoles subject claims.roles])).ComesTo subject request.path request.method rule ∧
            ¬Pattern.Compiles rule.resource) := by
  have hmodel (calls : List Call) : (engine.run calls).model = .builtin := Policy.Engine.model_run_of_build hbuild calls
  have hcrash (calls : List Call) (subject resource action : String) :
      (engine.run calls).enforce subject resource action = .error .crash ↔
        ∃ rule : Policy.Rule, rule.Leads (Policy.RuleSet.statedRules text) ∧
          (engine.run calls).ComesTo subject resource action rule ∧ ¬Pattern.Compiles rule.resource := by
    rw [Policy.Engine.enforce_eq_crash_iff (hmodel calls)]
    refine exists_congr fun rule => ⟨?_, And.right⟩
    rintro ⟨hcomes, hbroken⟩
    exact ⟨(Policy.Engine.mem_rules_run_iff hbuild calls).1 (hcomes.mem_rules hbroken), hcomes, hbroken⟩
  have hdecided (subject resource action : String)
      (h : (engine.run calls).enforce subject resource action ≠ .error .crash) :
      ∃ allowed, (engine.run calls).enforce subject resource action = .ok allowed := by
    refine (Policy.Engine.enforce_cases (hmodel calls) subject resource action).resolve_left fun hbroken => h ?_
    exact (Policy.Engine.enforce_eq_crash_iff (hmodel calls) subject resource action).2 hbroken
  refine ⟨fun subject resource action => ⟨hcrash calls subject resource action, hdecided subject resource action, ?_⟩, ?_⟩
  · intro hpatterns
    refine hdecided subject resource action fun h => ?_
    obtain ⟨rule, hleads, -, hbroken⟩ := (hcrash calls subject resource action).1 h
    exact hbroken (hpatterns rule hleads.mem)
  · intro maker flow service now request hcomponents hroute
    rw [handle_whoami_eq_none_iff hcomponents (hmodel calls) hroute]
    refine exists_congr fun token => exists_congr fun claims => and_congr_right fun _ => and_congr_right fun _ => ?_
    rw [← hcrash, Policy.Engine.run_append]
    rfl

namespace Sample

open Auth.Sample (users)

/-- A policy whose only pattern has a group that is not closed. -/
def openGroup : String := "p, user, /api/v1/(whoami, GET"

/-- With the open group a user is not answered at all. -/
theorem crashes_of_openGroup :
    ∃ engine, Policy.Engine.build (.ok Policy.defaultModelText) (fun () => Policy.RuleSet.ofText openGroup) = .ok engine ∧
      engine.enforce "user" "/api/v1/whoami" "GET" = .error .crash ∧
      (Service.handle { auth := .initial users, components := .of maker engine flow } Instant.epoch
        (whoami (maker.sign userClaims))).response = none := by
  let rule : Policy.Rule := ⟨"user", "/api/v1/(whoami", "GET", .allow⟩
  have htext : Policy.RuleSet.ofText openGroup = .ok ⟨[rule], []⟩ := by decide +kernel
  have hstated : Policy.RuleSet.statedRules openGroup = [rule] := by decide +kernel
  have hbroken : ¬Pattern.Compiles rule.resource := by decide +kernel
  have hleads : rule.Leads (Policy.RuleSet.statedRules openGroup) := by
    rw [hstated]
    exact Policy.Rule.leads_singleton.2 rfl
  obtain ⟨engine, hengine⟩ : ∃ engine, engine = Policy.Engine.ofRules ⟨[rule], []⟩ := ⟨_, rfl⟩
  have hbuild : Policy.Engine.build (.ok Policy.defaultModelText) (fun () => Policy.RuleSet.ofText openGroup) =
      .ok engine := by
    rw [Policy.Engine.build_default, htext, hengine]
    rfl
  have hcomes (calls : List Call) (subject resource action : String)
      (hconsulted : (engine.run calls).consulted subject = [rule]) :
      (engine.run calls).ComesTo subject resource action rule :=
    ⟨[], [], hconsulted, fun earlier hearlier => absurd hearlier List.not_mem_nil⟩
  have hrole : (engine.run []).consulted "user" = [rule] := by
    rw [hengine]
    decide +kernel
  have huser : (engine.run ([] ++ [.ensureRoles userClaims.userId.toString userClaims.roles])).consulted
      userClaims.userId.toString = [rule] := by
    rw [hengine]
    decide +kernel
  obtain ⟨hdecisions, hanswers⟩ := crashes_iff_comesTo hbuild []
  refine ⟨engine, hbuild, (hdecisions "user" "/api/v1/whoami" "GET").1.2 ⟨rule, hleads, hcomes _ _ _ _ hrole, hbroken⟩, ?_⟩
  refine (hanswers maker flow _ Instant.epoch _ rfl (whoami_route _)).2 ⟨maker.sign userClaims, userClaims,
    Request.bears_of_credential (whoami_credential maker userClaims), verify_sign_userClaims, rule, hleads,
    hcomes _ _ _ _ huser, hbroken⟩

end Sample

end Gatehouse.Http
