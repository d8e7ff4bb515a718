import Mathlib
import Gatehouse.Proofs.Http.Grants

/-!
# From a login to the identity of the caller

An access token that was answered by a login or by a renewal is a credential until it expires: whatever requests come in
between, the guard finds it in the header, its signature and its claims are in order, and the roles that it names are
those that its user had when it was issued. So the answer to a request for the identity of the caller is never that the
caller is not authenticated, and it is this identity if a rule allows the request to the user or to one of these roles.
-/

namespace Gatehouse.Http

/-! ## Requests for an access token -/

/-- No error is answered with success. -/
theorem ApiError.not_ok {e : ApiError} {response : Response} (h : some e.response = some response) :
    response.status ≠ .ok := by
  obtain rfl := Option.some.inj h
  change e.status ≠ .ok
  unfold status
  split
  all_goals nofun

namespace Service

variable {service : Service} {engine : Policy.Engine} {flow : Auth.Flow} {now : Instant} {request : Request}
  {response : Response}

/-- A request renews the access token of a user, with an outcome: it carries a refresh token with some claims. -/
def Renews (service : Service) (now : Instant) (request : Request) (c : Claims) (r : Auth.RefreshOutcome) : Prop :=
  request.route = .ok .renew ∧ ∃ form flow, RefreshForm.ofRequest request = .ok form ∧
    service.components.getFlow = .ok flow ∧ flow.maker.verify now form.refreshToken = .ok c ∧
    (flow.refresh now service.auth form.refreshToken).2 = .ok r

/-- A request is answered with an access token for a user, until an expiry: it logs the user in, or it renews the access
token for a refresh token of the user. -/
inductive Answers (service : Service) (now : Instant) (request : Request) (response : Response) :
    (user : Uuid) → (token : String) → (expireAt : Instant) → Prop
  | login {o : Auth.LoginOutcome} (hlogin : service.LogsIn now request o) (hresponse : response = .json .ok o.json) :
      Answers service now request response o.user.id o.accessToken o.accessClaims.expireAt
  | renew {c : Claims} {r : Auth.RefreshOutcome} (hrenew : service.Renews now request c r)
      (hresponse : response = .json .ok r.json) :
      Answers service now request response c.userId r.accessToken r.accessClaims.expireAt

/-- A request logs a user in with one outcome. -/
theorem LogsIn.unique {o o' : Auth.LoginOutcome} (h : service.LogsIn now request o)
    (h' : service.LogsIn now request o') : o = o' := by
  obtain ⟨-, form, flow, hform, hflow, ho⟩ := h
  obtain ⟨-, form', flow', hform', hflow', ho'⟩ := h'
  obtain rfl := Except.ok.inj (hform.symm.trans hform')
  obtain rfl := Except.ok.inj (hflow.symm.trans hflow')
  exact Except.ok.inj (ho.symm.trans ho')

/-- The access token of an answer was issued by the flow of the service, under some identifier, with the roles that its
user has then. -/
theorem Answers.issue_eq {user : Uuid} {token : String} {expireAt : Instant}
    (hcomponents : service.components = .of flow.maker engine flow)
    (h : service.Answers now request response user token expireAt) :
    ∃ id c, c.userId = user ∧ c.expireAt = expireAt ∧
      flow.maker.issue now id user (service.auth.users.rolesOf user) flow.accessLifetime = .ok (token, c) := by
  cases h with
  | @login o hlogin =>
    obtain ⟨-, form, flow', -, hflow, ho⟩ := hlogin
    rw [hcomponents] at hflow
    obtain rfl : flow = flow' := Except.ok.inj hflow
    have hopens := Auth.Flow.opens_of_login (Prod.ext rfl ho)
    exact ⟨_, o.accessClaims, hopens.accessClaims_eq.1, rfl, hopens.access_eq⟩
  | @renew c r hrenew =>
    obtain ⟨-, form, flow', -, hflow, hverify, hr⟩ := hrenew
    rw [hcomponents] at hflow
    obtain rfl : flow = flow' := Except.ok.inj hflow
    obtain ⟨c', hrenews⟩ := Auth.Flow.renews_of_refresh (Prod.ext rfl hr)
    obtain rfl : c = c' := Except.ok.inj (hverify.symm.trans hrenews.verify_eq)
    exact ⟨_, r.accessClaims, (TokenMaker.claims_of_issue hrenews.access_eq).2.1, rfl, hrenews.access_eq⟩

variable [Pattern.RegexEngine]

/-- A login that is answered with success logs a user in. -/
theorem logsIn_of_ok (hroute : request.route = .ok .login)
    (hresponse : (service.handle now request).response = some response) (hok : response.status = .ok) :
    ∃ o, service.LogsIn now request o ∧ response = .json .ok o.json := by
  unfold handle at hresponse
  rw [hroute] at hresponse
  dsimp only at hresponse
  unfold login at hresponse
  dsimp only at hresponse
  split at hresponse
  · exact absurd hok (ApiError.not_ok hresponse)
  next form hform =>
  split at hresponse
  · exact absurd hok (ApiError.not_ok hresponse)
  next flow hflow =>
  split at hresponse
  · next o ho =>
    obtain rfl := Option.some.inj hresponse
    exact ⟨o, ⟨hroute, form, flow, hform, hflow, ho⟩, rfl⟩
  · exact absurd hok (ApiError.not_ok hresponse)

/-- A renewal that is answered with success renews an access token. -/
theorem renews_of_ok (hroute : request.route = .ok .renew)
    (hresponse : (service.handle now request).response = some response) (hok : response.status = .ok) :
    ∃ c r, service.Renews now request c r ∧ response = .json .ok r.json := by
  unfold handle at hresponse
  rw [hroute] at hresponse
  dsimp only at hresponse
  unfold withToken at hresponse
  dsimp only at hresponse
  split at hresponse
  · exact absurd hok (ApiError.not_ok hresponse)
  next form hform =>
  split at hresponse
  · exact absurd hok (ApiError.not_ok hresponse)
  next flow hflow =>
  split at hresponse
  · next r hr =>
    obtain rfl := Option.some.inj hresponse
    obtain ⟨c, hrenews⟩ := Auth.Flow.renews_of_refresh (Prod.ext rfl hr)
    exact ⟨c, r, ⟨hroute, form, flow, hform, hflow, hrenews.verify_eq, hr⟩, rfl⟩
  · exact absurd hok (ApiError.not_ok hresponse)

/-- A login or a renewal that is answered with success is answered with an access token. -/
theorem answers_of_ok (hroute : request.route = .ok .login ∨ request.route = .ok .renew)
    (hresponse : (service.handle now request).response = some response) (hok : response.status = .ok) :
    ∃ user token expireAt, service.Answers now request response user token expireAt := by
  rcases hroute with hroute | hroute
  · obtain ⟨o, hlogin, hanswer⟩ := logsIn_of_ok hroute hresponse hok
    exact ⟨_, _, _, .login hlogin hanswer⟩
  · obtain ⟨c, r, hrenew, hanswer⟩ := renews_of_ok hroute hresponse hok
    exact ⟨_, _, _, .renew hrenew hanswer⟩

end Service

/-! ## Requests for the identity of the caller -/

/-- A request for the identity of the caller is recognized by its method and path. -/
theorem Request.route_of_path {request : Request} (hmethod : request.method = "GET")
    (hpath : request.path = "/api/v1/whoami") : request.route = .ok .whoami := by
  have hsegments : request.segments = ["api", "v1", "whoami"] := by
    unfold segments
    rw [hpath]
    decide +kernel
  unfold route
  rw [hmethod, hsegments]
  rfl

section Identity

variable [Pattern.RegexEngine] [Pattern.LawfulRegexEngine]
variable {service : Service} {engine : Policy.Engine} {flow : Auth.Flow} {now : Instant} {request : Request}

/-- A token that verifies is answered with the identity in it if a rule allows the request for a name that its user has
once the roles in the token are registered, and else that this is forbidden. -/
theorem handle_of_verified_of_rules (hcomponents : service.components = .of flow.maker engine flow)
    (hmodel : engine.model = .builtin) (hpatterns : ∀ rule ∈ engine.rules, Pattern.Compiles rule.resource)
    (hmethod : request.method = "GET") (hpath : request.path = "/api/v1/whoami") {c : Claims}
    (hheader : request.header? Request.authorizationHeader =
      some (Text.Utf8.ofString ("Bearer " ++ flow.maker.sign c)))
    (hverify : flow.maker.verify now (flow.maker.sign c) = .ok c) :
    ∃ answer, (service.handle now request).response = some answer ∧ answer.status ≠ .unauthorized ∧
      ((∃ rule ∈ engine.rules, rule.Allows rule.subject "/api/v1/whoami" "GET" ∧
        (rule.subject = c.userId.toString ∨ ⟨rule.subject⟩ ∈ c.roles)) →
          answer = .json .ok (Service.identity c)) := by
  have hbears := Request.bears_of_credential (Request.credential_bearer hheader)
  obtain ⟨allowed, henforce, hhandle⟩ :=
    handle_of_verified hcomponents hmodel hpatterns (Request.route_of_path hmethod hpath) hbears hverify
  rw [hhandle]
  refine ⟨_, rfl, ?_, ?_⟩
  · cases allowed with
    | true => nofun
    | false => nofun
  · rintro ⟨rule, hrule, hallows, hname⟩
    have hacts : (registered engine c).ActsAs c.userId.toString rule.subject := by
      refine hname.imp_right fun hrole => ?_
      have hgroupings : Policy.Engine.groupingFields engine.model ≠ none := by
        rw [hmodel]
        exact Option.some_ne_none 2
      exact mem_rolesFor_registered.2 (Or.inr ⟨hgroupings, rfl, hrole⟩)
    rw [← hpath, ← hmethod] at hallows
    rw [enforce_of_allows hmodel hpatterns hrule hallows hacts] at henforce
    rw [← Except.ok.inj henforce, if_pos rfl]

/-- Let a service have every component, with an engine of the built-in model for rules whose patterns all make
expressions, and with access tokens that last for a whole number of seconds, and let it answer a login or a renewal with
success at the epoch or later, after any run. The answer holds an access token for the user of the login or of the
refresh token. From then until the expiry in the answer, whatever else happens in between, a request for the identity of
the caller with this token is answered, and not that the caller is not authenticated. The answer is the identity of the
user, with the roles that the user had at the first answer, in their order, if a rule allows the request to the user or
to one of these roles. -/
theorem handle_accessToken {set : Policy.RuleSet}
    (hengine : Policy.Engine.build (.ok Policy.defaultModelText) (fun () => .ok set) = .ok engine)
    (hpatterns : ∀ rule ∈ set.rules, Pattern.Compiles rule.resource)
    (hcomponents : service.components = .of flow.maker engine flow)
    (hwhole : flow.accessLifetime.nanoseconds % 1000000000 = 0) (before : List (Instant × Event)) {issueTime : Instant}
    {response : Response} (hroute : request.route = .ok .login ∨ request.route = .ok .renew)
    (hresponse : ((service.run before).handle issueTime request).response = some response)
    (hok : response.status = .ok) (hepoch : Instant.epoch ≤ issueTime) :
    ∃ user token expireAt, (service.run before).Answers issueTime request response user token expireAt ∧
      ∀ (between : List (Instant × Event)) (now : Instant) (whoami : Request), issueTime ≤ now → now < expireAt →
        whoami.method = "GET" → whoami.path = "/api/v1/whoami" →
        whoami.header? Request.authorizationHeader = some (Text.Utf8.ofString ("Bearer " ++ token)) →
        ∃ answer,
          ((service.run (before ++ (issueTime, .request request) :: between)).handle now whoami).response =
            some answer ∧
          answer.status ≠ .unauthorized ∧
          ((∃ rule ∈ set.rules, rule.Allows rule.subject "/api/v1/whoami" "GET" ∧
            (rule.subject = user.toString ∨ ⟨rule.subject⟩ ∈ (service.run before).auth.users.rolesOf user)) →
            answer = .json .ok (.object
              [("user_id", .string user.toString),
                ("roles", .list (((service.run before).auth.users.rolesOf user).map fun role => .string role.name)),
                ("expires_at", .string expireAt.rfc3339)])) := by
  obtain rfl : Policy.Engine.ofRules set = engine := by
    rw [Policy.Engine.build_default] at hengine
    exact Except.ok.inj hengine
  obtain ⟨user, token, expireAt, hanswers⟩ := Service.answers_of_ok hroute hresponse hok
  refine ⟨user, token, expireAt, hanswers, fun between now whoami hnow hlive hmethod hpath hheader => ?_⟩
  obtain ⟨id, c, rfl, rfl, hissue⟩ := hanswers.issue_eq (components_run hcomponents before)
  obtain ⟨htoken, -⟩ := TokenMaker.issue_eq_ok_iff.1 hissue
  obtain ⟨-, -, hroles, -⟩ := TokenMaker.claims_of_issue hissue
  have hverify := (TokenMaker.verify_of_issue hissue hepoch hwhole hnow).1 hlive
  have hreached := components_run hcomponents (before ++ (issueTime, .request request) :: between)
  obtain ⟨hmodel, hrules⟩ := engineAfter_model_rules flow.maker (.ofRules set)
    (before ++ (issueTime, .request request) :: between)
  have hmem (rule : Policy.Rule) : rule ∈ (engineAfter flow.maker (.ofRules set)
      (before ++ (issueTime, .request request) :: between)).rules ↔ rule ∈ set.rules := by
    rw [hrules]
    exact List.mem_eraseDups
  rw [htoken] at hheader hverify
  obtain ⟨answer, hanswer, hstatus, hidentity⟩ := handle_of_verified_of_rules hreached hmodel
    (fun rule hrule => hpatterns rule ((hmem rule).1 hrule)) hmethod hpath hheader hverify
  refine ⟨answer, hanswer, hstatus, ?_⟩
  rintro ⟨rule, hrule, hallows, hname⟩
  rw [← hroles] at hname ⊢
  exact hidentity ⟨rule, (hmem rule).2 hrule, hallows, hname⟩

end Identity

namespace Sample

open Auth.Sample (alice users request verify_request)

/-- The path of a request for the identity of the caller, whatever token it carries. -/
theorem path_whoami (token : String) : (whoami token).path = "/api/v1/whoami" := by
  rw [whoami_path]
  decide +kernel

/-- The user logs in and asks for its identity with the access token; it is answered with its role. -/
theorem handle_accessToken_of_login :
    ∃ o, service.LogsIn Instant.epoch login o ∧
      ((service.run [(Instant.epoch, .request login)]).handle Instant.epoch (whoami o.accessToken)).response =
        some (.json .ok (.object
          [("user_id", .string alice.id.toString), ("roles", .list [.string "user"]),
            ("expires_at", .string o.accessClaims.expireAt.rfc3339)])) := by
  obtain ⟨s, o, hlogin, huser, hend, -⟩ :=
    @Auth.Flow.login_succeeds flowDistinct Instant.epoch (.initial users) request alice
      { seconds := 900, nanos := 0 } { seconds := 86400, nanos := 0 } rfl rfl verify_request (by decide) (by decide) rfl
  have hlogs : service.LogsIn Instant.epoch login o := logsIn_of_login rfl (congrArg Prod.snd hlogin)
  have hengine : Policy.Engine.build (.ok Policy.defaultModelText) (fun () => .ok userRules) =
      .ok (.ofRules userRules) := Policy.Engine.build_default _
  have hpatterns : ∀ rule ∈ userRules.rules, Pattern.Compiles rule.resource := by decide +kernel
  have hcomponents : service.components = .of flowDistinct.maker (.ofRules userRules) flowDistinct := rfl
  obtain ⟨user, token, expireAt, hanswers, hidentity⟩ := handle_accessToken hengine hpatterns hcomponents (by decide) []
    (Or.inl hlogs.1) hlogs.response_eq rfl le_rfl
  refine ⟨o, hlogs, ?_⟩
  cases hanswers with
  | renew hrenew =>
    have hroute := hlogs.1.symm.trans hrenew.1
    cases hroute
  | login hlogs' =>
    obtain rfl := hlogs.unique hlogs'
    obtain ⟨answer, hanswer, -, hok⟩ := hidentity [] Instant.epoch (whoami o.accessToken) le_rfl
      (by rw [hend]; decide) rfl (path_whoami _) (whoami_header _)
    have hroles : (service.run []).auth.users.rolesOf o.user.id = [Role.user] := by
      rw [huser]
      rfl
    rw [hroles, huser] at hok
    rw [List.nil_append, hok ?_] at hanswer
    · exact hanswer
    · exact ⟨_, List.mem_cons_self, ⟨rfl, rfl, by decide +kernel, Or.inl rfl⟩, Or.inr List.mem_cons_self⟩

end Sample

end Gatehouse.Http
