import Mathlib
import Gatehouse.Proofs.Http.RefreshToken
import Gatehouse.Proofs.Http.Whoami

/-!
# Who is let through

Whoever the guard admits is allowed by a rule for one of its names: the user of the token that is presented, a role in
that token, a role that the groupings of the start give to the user, or a role in another token of the user that the
guard verified before (`MayActAs`). The last kind is not idle: registered roles are never taken back, so a user whose
role was taken away goes on with it under new tokens that do not name it (`Sample.guard_roleTaken`).
-/

namespace Gatehouse.Http

open Outcome

section

variable {maker : TokenMaker} {engine : Policy.Engine} {flow : Auth.Flow} {now : Instant} {request : Request}
  {claims : Claims}

/-- Under which names the bearer of some claims may act after a run that began with some groupings. -/
inductive MayActAs (maker : TokenMaker) (groupings : List Policy.Grouping) (events : List (Instant × Event))
    (claims : Claims) (name : String) : Prop
  /-- The user of the claims. -/
  | user (hname : name = claims.userId.toString)
  /-- A role in the claims. -/
  | presented (hrole : ⟨name⟩ ∈ claims.roles)
  /-- A role that a grouping of the start gives to the user. -/
  | initial (hgrouping : ⟨claims.userId.toString, ⟨name⟩⟩ ∈ groupings)
  /-- A role in a token of the user that the guard has verified in the run. -/
  | verified {time : Instant} {earlier : Request} {others : Claims} (hevent : (time, .request earlier) ∈ events)
      (hclaims : guardedClaims maker time earlier = some others) (huser : others.userId = claims.userId)
      (hrole : ⟨name⟩ ∈ others.roles)

/-- The engine that a source gives with the built-in model is that of its rules. -/
theorem ofSource_builtin {files : Files} {source : Policy.Source}
    (hmodel : source.modelText files = .ok Policy.defaultModelText)
    (hengine : Policy.Engine.ofSource files source = .ok engine) :
    ∃ set, source.rules files = .ok set ∧ engine = .ofRules set := by
  unfold Policy.Engine.ofSource at hengine
  rw [hmodel, Policy.Engine.build_default] at hengine
  obtain ⟨set, hset, rfl⟩ := map_eq_ok_iff.1 hengine
  exact ⟨set, hset, rfl⟩

/-- The names under which a user acts at the guard after a run. -/
theorem mayActAs_of_actsAs {set : Policy.RuleSet} {events : List (Instant × Event)} {name : String}
    (h : (registered (engineAfter maker (.ofRules set) events) claims).ActsAs claims.userId.toString name) :
    MayActAs maker set.groupings events claims name := by
  rcases h with hname | hrole
  · exact .user hname
  rcases mem_rolesFor_registered.1 hrole with hrole | ⟨-, -, hrole⟩
  · rcases mem_rolesFor_engineAfter.1 hrole with hrole | ⟨-, time, earlier, others, hevent, hclaims, huser, hrole⟩
    · rw [Policy.Engine.mem_rolesFor (Uuid.toString_ne_empty _)] at hrole
      exact .initial (List.mem_eraseDups.1 hrole)
    · exact .verified hevent hclaims huser hrole
  · exact .presented hrole

variable [Pattern.RegexEngine]

/-- Claims that are admitted are those that were decided on, and the policy allows their user the request once their
roles are registered. -/
theorem enforce_of_authorize {c : Components} {others : Claims}
    (h : (c.authorize engine others request).2 = .admitted claims) :
    others = claims ∧
      (registered engine others).enforce others.userId.toString request.path request.method = .ok true := by
  unfold Components.authorize at h
  dsimp only at h
  split at h
  · cases h
  split at h
  · cases h
  · cases h
  · cases h
  · next henforce => exact ⟨Passage.admitted.inj h, henforce⟩

/-- Whoever the guard admits bears a token that verifies, and the policy allows its user the request once the roles in
the token are registered. -/
theorem enforce_of_admitted (h : ((Components.of maker engine flow).guard now request).passage = .admitted claims) :
    ∃ token, request.credential = .ok token ∧ maker.verify now token = .ok claims ∧
      (registered engine claims).enforce claims.userId.toString request.path request.method = .ok true := by
  have hverified : ∃ token others, request.credential = .ok token ∧ maker.verify now token = .ok others := by
    by_contra hnot
    obtain ⟨-, e, hrefused⟩ := @guard_of_not_verified _ maker engine flow now request
      fun token hcredential others hverify => hnot ⟨token, others, hcredential, hverify⟩
    rw [hrefused] at h
    cases h
  obtain ⟨token, others, hcredential, hverify⟩ := hverified
  rw [guard_of_verified hcredential hverify] at h
  obtain ⟨rfl, henforce⟩ := enforce_of_authorize h
  exact ⟨token, hcredential, hverify, henforce⟩

/-- With patterns that all make expressions, an engine of the built-in model allows a request to a user, if a rule
allows it for a name that the user has once the roles of some claims are registered. -/
theorem enforce_of_allows (hmodel : engine.model = .builtin)
    (hpatterns : ∀ rule ∈ engine.rules, Pattern.Compiles rule.resource) {rule : Policy.Rule}
    (hrule : rule ∈ engine.rules)
    (hallows : rule.Allows rule.subject request.path request.method)
    (hacts : (registered engine claims).ActsAs claims.userId.toString rule.subject) :
    (registered engine claims).enforce claims.userId.toString request.path request.method = .ok true := by
  obtain ⟨hmodel', hrules'⟩ := registered_model_rules engine claims
  have hdecisive : (registered engine claims).decisive = engine.rules := by
    rw [Policy.Engine.decisive_of_rules, hrules']
    rw [hrules']
    exact List.ne_nil_of_mem hrule
  obtain ⟨allowed, henforce, hiff⟩ := Policy.Engine.enforce_builtin (hmodel'.trans hmodel)
    (hdecisive.symm ▸ hpatterns) claims.userId.toString request.path request.method
  rw [henforce, hiff.2 ⟨rule, hdecisive.symm ▸ hrule, hacts, hallows⟩]

variable [Pattern.LawfulRegexEngine]

/-- With patterns that all make expressions, the guard of the built-in model admits whoever bears a token that
verifies, if a rule allows the request for a name that its user has once the roles in the token are registered. -/
theorem admitted_of_allows (hmodel : engine.model = .builtin)
    (hpatterns : ∀ rule ∈ engine.rules, Pattern.Compiles rule.resource) {token : String}
    (hcredential : request.credential = .ok token) (hverify : maker.verify now token = .ok claims) {rule : Policy.Rule}
    (hrule : rule ∈ engine.rules) (hallows : rule.Allows rule.subject request.path request.method)
    (hacts : (registered engine claims).ActsAs claims.userId.toString rule.subject) :
    ((Components.of maker engine flow).guard now request).passage = .admitted claims := by
  obtain ⟨allowed, henforce, hauthorize⟩ := authorize_builtin hmodel hpatterns (.of maker engine flow) claims request
  rw [enforce_of_allows hmodel hpatterns hrule hallows hacts] at henforce
  rw [guard_of_verified hcredential hverify, hauthorize, if_pos (Except.ok.inj henforce).symm]

end

/-- Let a service start with the built-in model. After every run of requests and changes of the users, whoever the
guard admits bears a token that verifies, and a rule of the policy that allows matches the path and the method of the
request for the user of that token, for a role in that token, for a role that a grouping of the policy gives to the
user, or for a role in a token of the user that the guard has verified before. A request has a method; an empty one
could match the empty rule that stands in for a policy without rules. -/
theorem exists_allows_of_admitted [Pattern.RegexEngine] {start : Startup} {files : Files} {settings : Settings}
    {ready : Ready} (hserve : start.serve files settings = .ok ready)
    (hmodel : settings.policy.source.modelText files = .ok Policy.defaultModelText) (events : List (Instant × Event))
    (now : Instant) {request : Request} (hmethod : request.method ≠ "") {claims : Claims}
    (hadmitted : ((ready.service.run events).components.guard now request).passage = .admitted claims) :
    ∃ maker set token, settings.token.maker = .ok maker ∧ settings.policy.source.rules files = .ok set ∧
      request.credential = .ok token ∧ maker.verify now token = .ok claims ∧
      ∃ rule ∈ set.rules, rule.Allows rule.subject request.path request.method ∧
        MayActAs maker set.groupings events claims rule.subject := by
  obtain ⟨maker, users, engine, flow, hmaker, -, hengine, -, rfl⟩ := Startup.serve_eq_ok_iff.1 hserve
  obtain ⟨set, hset, rfl⟩ := ofSource_builtin hmodel hengine
  rw [components_run rfl] at hadmitted
  obtain ⟨token, hcredential, hverify, henforce⟩ := enforce_of_admitted hadmitted
  generalize hreached : registered (engineAfter maker (.ofRules set) events) claims = reached at henforce
  have hkept : reached.model = .builtin ∧ reached.rules = set.rules.eraseDups := by
    obtain ⟨hmodel', hrules'⟩ := engineAfter_model_rules maker (.ofRules set) events
    rw [← hreached, (registered_model_rules _ _).1, (registered_model_rules _ _).2]
    exact ⟨hmodel', hrules'⟩
  obtain ⟨rule, hrule, hacts, hallows⟩ := Policy.Engine.exists_allows_of_enforce hkept.1 henforce
  have hmem := Policy.Engine.mem_rules_of_allows hrule hallows hmethod
  rw [hkept.2, List.mem_eraseDups] at hmem
  subst hreached
  exact ⟨maker, set, token, hmaker, hset, hcredential, hverify, rule, hmem, hallows, mayActAs_of_actsAs hacts⟩

/-! ### A run -/

namespace Sample

open Auth.Sample (alice users request verify_request)

/-- The files of the policy without a model. -/
def rulesOnly : Files := .ofList [("policy.csv", .content (Text.Utf8.ofString "p, user, /api/v1/whoami, GET"))]

/-- The rules in these files. -/
def userRules : Policy.RuleSet := ⟨[⟨"user", "/api/v1/whoami", "GET", .allow⟩], []⟩

/-- A start at the epoch that gives tokens identifiers of their own. -/
def startDistinct : Startup := { start with tokenIds := fun n => ⟨Vector.replicate 16 n.toUInt8⟩ }

/-- The flow of this start. -/
def flowDistinct : Auth.Flow := { flow with ids := startDistinct.tokenIds }

/-- The service that this start gives. -/
def service : Service := { auth := .initial users, components := .of maker (.ofRules userRules) flowDistinct }

/-- Without a file for it, the model is the built-in one. -/
theorem modelText_rulesOnly : settings.policy.source.modelText rulesOnly = .ok Policy.defaultModelText := by
  have hfile : rulesOnly.content? "model.conf" = none := rfl
  simp only [Policy.Source.modelText, Settings.Policy.source, settings, Policy.readOr, hfile]

/-- The rules are found in their file. -/
theorem rules_rulesOnly : settings.policy.source.rules rulesOnly = .ok userRules := by
  have hfile : rulesOnly.content? "policy.csv" = some (Text.Utf8.ofString "p, user, /api/v1/whoami, GET") := rfl
  have hrules : Policy.RuleSet.ofText "p, user, /api/v1/whoami, GET" = .ok userRules := by decide +kernel
  simp only [Policy.Source.rules, Settings.Policy.source, settings, Policy.readOr, hfile, bind, Except.bind,
    Text.Utf8.decodeString?_ofString, hrules]

/-- With the settings and these files the service starts. -/
theorem serve_rulesOnly : startDistinct.serve rulesOnly settings = .ok ⟨settings.server.address, service⟩ := by
  have hengine : Policy.Engine.ofSource rulesOnly settings.policy.source = .ok (.ofRules userRules) := by
    unfold Policy.Engine.ofSource
    rw [modelText_rulesOnly, Policy.Engine.build_default, rules_rulesOnly]
    rfl
  exact Startup.serve_eq_ok_iff.2 ⟨maker, users, .ofRules userRules, flowDistinct, rfl, rfl, hengine, rfl, rfl⟩

/-- A request for a login changes the state of authentication as the login does. -/
theorem auth_login {s s' : Auth.State} {o : Auth.LoginOutcome} (engine : Policy.Engine)
    (hlogin : flowDistinct.login Instant.epoch s request = (s', .ok o)) :
    (Service.handle ⟨.of maker engine flowDistinct, s⟩ Instant.epoch login).service.auth = s' := by
  have hroute : login.route = .ok .login := by rfl
  have hform : LoginForm.ofRequest login = .ok ⟨"alice", "secret"⟩ := by rfl
  have hrequest :
      (⟨"alice", "secret", login.userAgent, login.client.getD ""⟩ : Auth.LoginRequest) = request := by
    rfl
  simp only [Service.handle, hroute, Service.login, hform, Components.of, Components.getFlow, Components.get,
    hrequest, hlogin]

/-- A login that succeeds is one by request. -/
theorem logsIn_of_login {s : Service} {engine : Policy.Engine} {o : Auth.LoginOutcome}
    (h : s.components = .of maker engine flowDistinct)
    (hlogin : (flowDistinct.login Instant.epoch s.auth request).2 = .ok o) : s.LogsIn Instant.epoch login o := by
  refine ⟨by rfl, ⟨"alice", "secret"⟩, flowDistinct, by rfl, ?_, hlogin⟩
  rw [h]
  rfl

/-- The user logs in and asks for its identity with a token; then it loses its role. -/
def roleTaken (token : String) : List (Instant × Event) :=
  [(Instant.epoch, .request login), (Instant.epoch, .request (whoami token)),
    (Instant.epoch, .users (.setRoles alice.id []))]

/-- A request for the identity of the caller does not change the state of authentication. -/
theorem auth_whoami (s : Service) (token : String) :
    (s.handle Instant.epoch (whoami token)).service.auth = s.auth := by
  simp only [Service.handle, whoami_route, Service.whoami]

/-- The state of authentication after these events is that after the login, without the role. -/
theorem auth_roleTaken {service : Service} {s : Auth.State} (token : String)
    (h : (service.handle Instant.epoch login).service.auth = s) :
    (service.run (roleTaken token)).auth = { s with users := s.users.setRoles alice.id [] } := by
  generalize hnext : (service.handle Instant.epoch login).service = next at h
  simp only [roleTaken, Service.run, Service.step, hnext, auth_whoami, h, UserStore.apply]

/-- A login has answered an access token for the user with some roles, and the token verifies. -/
structure Holds (o : Auth.LoginOutcome) (roles : List Role) : Prop where
  token_eq : o.accessToken = maker.sign o.accessClaims
  verify_eq : maker.verify Instant.epoch o.accessToken = .ok o.accessClaims
  user_eq : o.accessClaims.userId = alice.id
  roles_eq : o.accessClaims.roles = roles

/-- A login of the user at the epoch answers a token with the roles that it has then. -/
theorem holds_of_login {s s' : Auth.State} {o : Auth.LoginOutcome}
    (hlogin : flowDistinct.login Instant.epoch s request = (s', .ok o)) (huser : o.user = alice)
    (hend : o.accessClaims.expireAt = { seconds := 900, nanos := 0 }) : Holds o (s.users.rolesOf alice.id) := by
  have hopens := Auth.Flow.opens_of_login hlogin
  obtain ⟨hid, -, hroles⟩ := hopens.accessClaims_eq
  rw [huser] at hid hroles
  obtain ⟨hsign, -⟩ := TokenMaker.issue_eq_ok_iff.1 hopens.access_eq
  have hverify := hopens.verify_access (by decide) (by decide) (by decide) le_rfl (by rw [hend]; decide)
  exact ⟨hsign, hverify, hid, hroles⟩

/-- The request with such a token carries it as its credential. -/
theorem Holds.credential_eq {o : Auth.LoginOutcome} {roles : List Role} (h : Holds o roles) :
    (whoami o.accessToken).credential = .ok o.accessToken := by
  rw [h.token_eq]
  exact whoami_credential maker o.accessClaims

/-- The user can log in again after its role was taken away, and its new token names no role. -/
theorem login_roleTaken :
    ∃ o o', service.LogsIn Instant.epoch login o ∧ Holds o [Role.user] ∧
      (service.run (roleTaken o.accessToken)).LogsIn Instant.epoch login o' ∧ Holds o' [] := by
  obtain ⟨s, o, hlogin, huser, hend, -⟩ :=
    @Auth.Flow.login_succeeds flowDistinct Instant.epoch (.initial users) request alice
      { seconds := 900, nanos := 0 } { seconds := 86400, nanos := 0 } rfl rfl verify_request (by decide) (by decide) rfl
  have hopens := Auth.Flow.opens_of_login hlogin
  have husers : s.users = users := hopens.users_eq
  have hfirst : (service.handle Instant.epoch login).service.auth = s := by
    unfold service
    exact auth_login _ hlogin
  have hauth := auth_roleTaken o.accessToken hfirst
  -- The first login has taken the identifier of its refresh token; the second draws another one.
  have hfree : s.sessions.get? (flowDistinct.ids (s.issued + 1)) = none := by
    obtain ⟨session, hcreate, -⟩ := hopens.create_eq
    obtain ⟨-, -, hsessions⟩ := SessionStore.create_eq_ok_iff.1 hcreate
    obtain ⟨hid, -⟩ := hopens.refreshClaims_eq
    have hissued : s.issued = 2 := hopens.issued_eq
    have hother : ¬flowDistinct.ids 1 = flowDistinct.ids 3 := by decide
    rw [hsessions, hissued]
    unfold SessionStore.get?
    refine List.find?_eq_none.2 fun row hrow => ?_
    obtain rfl := List.mem_singleton.1 hrow
    rw [decide_eq_true_eq]
    change ¬o.refreshClaims.id = _
    rw [hid]
    exact hother
  obtain ⟨s', o', hlogin', huser', hend', -⟩ :=
    @Auth.Flow.login_succeeds flowDistinct Instant.epoch { s with users := s.users.setRoles alice.id [] } request
      alice { seconds := 900, nanos := 0 } { seconds := 86400, nanos := 0 } rfl (by rw [husers]; rfl) verify_request
      (by decide) (by decide) hfree
  have hholds' := holds_of_login hlogin' huser' hend'
  have hnone : (s.users.setRoles alice.id []).rolesOf alice.id = [] := by
    rw [husers]
    rfl
  rw [hnone] at hholds'
  refine ⟨o, o', logsIn_of_login rfl (congrArg Prod.snd hlogin), holds_of_login hlogin huser hend, ?_, hholds'⟩
  refine logsIn_of_login (components_run rfl _) ?_
  rw [hauth, hlogin']

/-- The guard has verified the first token, so it admits the user with the new token, whatever happens after. -/
theorem guard_roleTaken {o o' : Auth.LoginOutcome} (h : Holds o [Role.user]) (h' : Holds o' [])
    (after : List (Instant × Event)) :
    ((service.run (roleTaken o.accessToken ++ after)).components.guard Instant.epoch
      (whoami o'.accessToken)).passage = .admitted o'.accessClaims := by
  generalize hevents : roleTaken o.accessToken ++ after = events
  have hevent : (Instant.epoch, .request (whoami o.accessToken)) ∈ events := by
    rw [← hevents]
    exact List.mem_append_left _ (List.mem_cons_of_mem _ List.mem_cons_self)
  have hclaims : guardedClaims maker Instant.epoch (whoami o.accessToken) = some o.accessClaims := by
    simp only [guardedClaims, whoami_route, h.credential_eq, h.verify_eq, Except.toOption]
  obtain ⟨hmodel, hrules⟩ := engineAfter_model_rules maker (.ofRules userRules) events
  have hrule : ⟨"user", "/api/v1/whoami", "GET", .allow⟩ ∈ (engineAfter maker (.ofRules userRules) events).rules := by
    rw [hrules]
    decide
  rw [components_run rfl]
  refine admitted_of_allows hmodel ?_ h'.credential_eq h'.verify_eq hrule ⟨rfl, rfl, ?_, Or.inl rfl⟩ (Or.inr ?_)
  · rw [hrules]
    decide +kernel
  · rw [whoami_path]
    decide +kernel
  · rw [mem_rolesFor_registered, mem_rolesFor_engineAfter]
    refine Or.inl (Or.inr ⟨Option.some_ne_none 2, Instant.epoch, whoami o.accessToken, o.accessClaims, hevent, hclaims,
      ?_, ?_⟩)
    · rw [h.user_eq, h'.user_eq]
    · rw [h.roles_eq]
      exact List.mem_cons_self

/-- With the built-in model, a user that has lost its role and logs in again is let through under the new token, which
names no role, though no rule allows the request for the user, for a role in that token or for a role that the groupings
of the policy give. -/
theorem admitted_without_role :
    ∃ (ready : Ready) (o o' : Auth.LoginOutcome), startDistinct.serve rulesOnly settings = .ok ready ∧
      settings.policy.source.modelText rulesOnly = .ok Policy.defaultModelText ∧
      ready.service.LogsIn Instant.epoch login o ∧
      (ready.service.run (roleTaken o.accessToken)).LogsIn Instant.epoch login o' ∧
      (whoami o'.accessToken).credential = .ok o'.accessToken ∧
      ((ready.service.run (roleTaken o.accessToken ++ [(Instant.epoch, .request login)])).components.guard
        Instant.epoch (whoami o'.accessToken)).passage = .admitted o'.accessClaims ∧
      ∀ set, settings.policy.source.rules rulesOnly = .ok set →
        ¬∃ rule ∈ set.rules, rule.Allows rule.subject (whoami o'.accessToken).path (whoami o'.accessToken).method ∧
          (rule.subject = o'.accessClaims.userId.toString ∨ ⟨rule.subject⟩ ∈ o'.accessClaims.roles ∨
            ⟨o'.accessClaims.userId.toString, ⟨rule.subject⟩⟩ ∈ set.groupings) := by
  obtain ⟨o, o', hlogs, hholds, hlogs', hholds'⟩ := login_roleTaken
  refine ⟨_, o, o', serve_rulesOnly, modelText_rulesOnly, hlogs, hlogs', hholds'.credential_eq,
    guard_roleTaken hholds hholds' _, ?_⟩
  intro set hset
  obtain rfl : userRules = set := Except.ok.inj (rules_rulesOnly.symm.trans hset)
  rintro ⟨rule, hrule, -, hsource⟩
  obtain rfl := List.mem_singleton.1 hrule
  rw [hholds'.user_eq, hholds'.roles_eq] at hsource
  rcases hsource with hsubject | hrole | hgrouping
  · revert hsubject
    decide +kernel
  · exact List.not_mem_nil hrole
  · exact List.not_mem_nil hgrouping

/-- The rule by which the user of that run is let through is for a role in the token that the guard has verified
before. -/
theorem exists_allows_of_roleTaken :
    ∃ (ready : Ready) (o o' : Auth.LoginOutcome), startDistinct.serve rulesOnly settings = .ok ready ∧
      ready.service.LogsIn Instant.epoch login o ∧
      let events := roleTaken o.accessToken ++ [(Instant.epoch, .request login)]
      ((ready.service.run events).components.guard Instant.epoch (whoami o'.accessToken)).passage =
        .admitted o'.accessClaims ∧
      ∃ maker set token, settings.token.maker = .ok maker ∧ settings.policy.source.rules rulesOnly = .ok set ∧
        (whoami o'.accessToken).credential = .ok token ∧ maker.verify Instant.epoch token = .ok o'.accessClaims ∧
        ∃ rule ∈ set.rules, rule.Allows rule.subject (whoami o'.accessToken).path (whoami o'.accessToken).method ∧
          MayActAs maker set.groupings events o'.accessClaims rule.subject := by
  obtain ⟨o, o', hlogs, hholds, -, hholds'⟩ := login_roleTaken
  have hadmitted := guard_roleTaken hholds hholds' [(Instant.epoch, .request login)]
  have hmethod : (whoami o'.accessToken).method ≠ "" := by
    change "GET" ≠ ""
    decide
  exact ⟨_, o, o', serve_rulesOnly, hlogs, hadmitted,
    exists_allows_of_admitted serve_rulesOnly modelText_rulesOnly _ Instant.epoch hmethod hadmitted⟩

end Sample

end Gatehouse.Http
