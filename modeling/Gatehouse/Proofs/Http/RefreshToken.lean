import Mathlib
import Gatehouse.Proofs.Auth.Refresh
import Gatehouse.Proofs.Auth.Sessions
import Gatehouse.Proofs.Http.Bearer
import Gatehouse.Proofs.Http.Startup

/-!
# Refresh tokens at the guard

A refresh token is meant for renewals and logouts alone, but the guard does not tell it from an access token: it lets a
request with a refresh token through whenever the token has not expired and the policy allows the user of the token.
That the session behind it is blocked plays no part. The token carries no roles, but the roles of every access token
that the guard has verified stay registered for the user.
-/

namespace Gatehouse.Http

open Outcome

section

variable {maker : TokenMaker} {engine : Policy.Engine} {flow : Auth.Flow} {now : Instant}

/-- A request logs a user in, with an outcome. -/
def Service.LogsIn (service : Service) (now : Instant) (request : Request) (o : Auth.LoginOutcome) : Prop :=
  request.route = .ok .login ∧ ∃ form flow, LoginForm.ofRequest request = .ok form ∧
    service.components.getFlow = .ok flow ∧
    (flow.login now service.auth
      { username := form.username, password := form.password, userAgent := request.userAgent,
        clientIp := request.client.getD "" }).2 = .ok o

/-- The claims in the refresh token of a login are authentic, begin with the second of the login and name no roles. -/
theorem Service.LogsIn.refreshClaims {service : Service} {request : Request} {o : Auth.LoginOutcome}
    (hcomponents : service.components = .of maker engine flow) (hmaker : flow.maker = maker)
    (hforward : 0 ≤ flow.refreshLifetime.nanoseconds) (hwhole : flow.refreshLifetime.nanoseconds % 1000000000 = 0)
    (hnow : Instant.epoch ≤ now) (h : service.LogsIn now request o) :
    maker.Authentic o.refreshToken o.refreshClaims ∧ o.refreshClaims.userId = o.user.id ∧
      o.refreshClaims.notBefore = now.floor ∧ o.refreshClaims.roles = [] := by
  obtain ⟨-, form, flow', -, hflow, hlogin⟩ := h
  rw [hcomponents] at hflow
  obtain rfl : flow = flow' := Except.ok.inj hflow
  have hopens := Auth.Flow.opens_of_login (Prod.ext rfl hlogin)
  obtain ⟨-, huser, hbegin, hroles⟩ := hopens.refreshClaims_eq
  exact ⟨hmaker ▸ hopens.authentic hnow hforward hwhole, huser, hbegin, hroles⟩

variable [Pattern.RegexEngine]

/-- The response to a request that logs a user in is the outcome of the login. -/
theorem Service.LogsIn.response_eq {service : Service} {request : Request} {o : Auth.LoginOutcome}
    (h : service.LogsIn now request o) : (service.handle now request).response = some (.json .ok o.json) := by
  obtain ⟨hroute, form, flow, hform, hflow, hlogin⟩ := h
  simp only [Service.handle, hroute, Service.login, hform, hflow, hlogin]

/-- Claims that name no roles are decided by the policy as it stands: they pass exactly when it allows their user. -/
theorem authorize_admits_iff {c : Components} {claims : Claims} {request : Request} (hroles : claims.roles = []) :
    (∃ admitted, (c.authorize engine claims request).2 = .admitted admitted) ↔
      engine.enforce claims.userId.toString request.path request.method = .ok true := by
  unfold Components.authorize
  dsimp only
  rw [hroles, Policy.Engine.ensureRoles_nil]
  dsimp only
  split
  · next e h => simp [h]
  · next h => simp [h]
  · next h => simp [h]
  · next h => simp [h]

/-- A token of a user without roles passes the guard exactly when it is in force and the policy allows the user. -/
theorem guard_admits_iff {request : Request} {token : String} {claims : Claims}
    (hcredential : request.credential = .ok token) (hauthentic : maker.Authentic token claims)
    (hbegun : claims.notBefore ≤ now) (hroles : claims.roles = []) :
    (∃ admitted, ((Components.of maker engine flow).guard now request).passage = .admitted admitted) ↔
      now < claims.expireAt ∧ engine.enforce claims.userId.toString request.path request.method = .ok true := by
  by_cases hlive : now < claims.expireAt
  · have hverify : maker.verify now token = .ok claims := by
      rw [hauthentic.verify, if_neg (not_le.2 hlive), if_neg (not_lt.2 hbegun)]
    rw [guard_of_verified hcredential hverify]
    simp only [hlive, true_and]
    exact authorize_admits_iff hroles
  · have hverify : ∀ token, request.credential = .ok token → ∀ c, maker.verify now token ≠ .ok c := by
      intro token' ht c
      rw [hcredential] at ht
      obtain rfl := Except.ok.inj ht
      rw [hauthentic.verify, if_pos (not_lt.1 hlive)]
      intro hf
      cases hf
    obtain ⟨-, e, hrefused⟩ := guard_of_not_verified engine flow hverify
    rw [hrefused]
    simp [hlive]

end

/-- Let a service start from checked settings, and let a request of a run log a user in, from when on the clock does not
go back. After any further requests and changes of the users, a request with the refresh token of that login passes the
guard exactly when the token has not expired and the policy engine allows its user; whether its session is blocked does
not matter. The engine is the one of the start, and the roles that it has for the user are those from the start and,
if the model has groupings, those in the tokens for this user that the guard has verified in the run. -/
theorem guard_admits_refreshToken_iff [Pattern.RegexEngine] {start : Startup} {files : Files} {settings : Settings}
    {ready : Ready} (hsettings : settings.validate = .ok ()) (hserve : start.serve files settings = .ok ready)
    (before between : List (Instant × Event)) (now : Instant) {loginTime : Instant} {login guarded : Request}
    {o : Auth.LoginOutcome} (hlogin : (ready.service.run before).LogsIn loginTime login o)
    (hepoch : Instant.epoch ≤ loginTime) (hclock : loginTime ≤ now)
    (htoken : guarded.credential = .ok o.refreshToken) :
    ∃ maker engine, settings.token.maker = .ok maker ∧
      Policy.Engine.ofSource files settings.policy.source = .ok engine ∧
      let events := before ++ (loginTime, .request login) :: between
      let reached := engineAfter maker engine events
      ((∃ claims, ((ready.service.run events).components.guard now guarded).passage = .admitted claims) ↔
        now < o.refreshClaims.expireAt ∧
          reached.enforce o.user.id.toString guarded.path guarded.method = .ok true) ∧
      reached.model = engine.model ∧ reached.rules = engine.rules ∧
      ∀ role, role ∈ reached.rolesFor o.user.id.toString ↔
        role ∈ engine.rolesFor o.user.id.toString ∨ Policy.Engine.groupingFields engine.model ≠ none ∧
          ∃ time request claims, (time, .request request) ∈ events ∧ guardedClaims maker time request = some claims ∧
            claims.userId = o.user.id ∧ role ∈ claims.roles := by
  obtain ⟨maker, users, engine, flow, hmaker, -, hengine, hflow, rfl⟩ := Startup.serve_eq_ok_iff.1 hserve
  obtain ⟨hbackend, -, hforward, hwhole⟩ := Settings.flow_lifetimes hsettings hflow
  have hmaker' : flow.maker = maker := congrArg Auth.Backend.maker hbackend
  refine ⟨maker, engine, hmaker, hengine, ?_, (engineAfter_model_rules _ _ _).1, (engineAfter_model_rules _ _ _).2,
    fun role => mem_rolesFor_engineAfter⟩
  have hthen : (Service.run { auth := .initial users, components := .of maker engine flow } before).components =
      .of maker (engineAfter maker engine before) flow := components_run rfl before
  obtain ⟨hauthentic, huser, hbegin, hroles⟩ :=
    hlogin.refreshClaims hthen hmaker' (by omega) hwhole hepoch
  rw [components_run rfl, ← huser]
  refine guard_admits_iff htoken hauthentic ?_ hroles
  rw [hbegin]
  exact (Instant.floor_le _).trans hclock

/-! ### A run -/

/-- The route of a request depends on its method and its target alone. -/
theorem Request.route_congr {r r' : Request} (hmethod : r.method = r'.method) (htarget : r.target = r'.target) :
    r.route = r'.route := by
  have hsegments : r.segments = r'.segments := by
    unfold Request.segments Request.path
    rw [htarget]
  unfold Request.route
  rw [hmethod, hsegments]

namespace Sample

open Auth.Sample (alice users request verify_request)

/-- The lines of a model in which a subject may do what a rule says of its name or of one of its roles. -/
def modelLines : List String :=
  ["[request_definition]", "r=sub,obj,act", "[policy_definition]", "p=sub,obj,act,eft", "[role_definition]", "g=_,_",
    "[policy_effect]", "e=some(where (p.eft == allow))", "[matchers]", "m=r.sub==p.sub"]

/-- The text of the model. -/
def modelText : List Char := ['\n'].intercalate (modelLines.map String.toList)

/-- The files of a policy by which users may ask for their identity. -/
def files : Files :=
  .ofList [("model.conf", .content (Text.Utf8.encode modelText)),
    ("policy.csv", .content (Text.Utf8.ofString "p, user, /api/v1/whoami, GET"))]

/-- Settings with one user. -/
def settings : Settings :=
  { server := ⟨"localhost", 8080⟩, logging := ⟨"info"⟩, policy := ⟨"policy.csv", "model.conf"⟩
    users := [⟨"alice", Password.hashText (List.replicate 16 0x2A) "secret", "", "", ["user"]⟩]
    token := ⟨"0123456789abcdef0123456789abcdef", 900, 86400, "gate", "players"⟩ }

/-- A start at the epoch. -/
def start : Startup := ⟨Instant.epoch, fun _ => .nil, fun _ => .nil⟩

/-- The request with which the user logs in. -/
def login : Request :=
  { method := "POST", target := "/api/v1/auth/login", client := none
    headers := [("content-type", Text.Utf8.ofString "application/json")]
    body := Text.Utf8.ofString "\x7b\"username\":\"alice\",\"password\":\"secret\"\x7d" }

/-- The request for the caller's identity with a token. -/
def whoami (token : String) : Request :=
  { method := "GET", target := "/api/v1/whoami", client := none, body := []
    headers := [("authorization", Text.Utf8.ofString ("Bearer " ++ token))] }

/-- The request to log out with a token. -/
def logout (token : String) : Request :=
  { method := "POST", target := "/api/v1/auth/logout", client := none
    headers := [("content-type", Text.Utf8.ofString "application/json")]
    body := Text.Utf8.ofString ("\x7b\"refresh_token\":\"" ++ token ++ "\"\x7d") }

/-- The maker of the settings. -/
def maker : TokenMaker := ⟨Text.Utf8.ofString settings.token.symmetricKey, "gate", "players", by rfl⟩

/-- The flow of the settings. -/
def flow : Auth.Flow :=
  { maker, ids := start.tokenIds, faults := {}
    accessLifetime := { nanoseconds := 900000000000 }, refreshLifetime := { nanoseconds := 86400000000000 } }

/-- The text of the model is found in its file. -/
theorem modelText_eq : settings.policy.source.modelText files = .ok (String.ofList modelText) := by
  have hfile : files.content? "model.conf" = some (Text.Utf8.encode modelText) := rfl
  simp only [Policy.Source.modelText, Settings.Policy.source, settings, Policy.readOr, hfile,
    Text.Utf8.decodeString?, Text.Utf8.decode?_encode, Option.map_some]

/-- The text of the rules is found in its file. -/
theorem rules_eq : settings.policy.source.rules files = Policy.RuleSet.ofText "p, user, /api/v1/whoami, GET" := by
  have hfile : files.content? "policy.csv" = some (Text.Utf8.ofString "p, user, /api/v1/whoami, GET") := rfl
  simp only [Policy.Source.rules, Settings.Policy.source, settings, Policy.readOr, hfile, bind, Except.bind,
    Text.Utf8.decodeString?_ofString]

/-- A model is read from the characters of its text. -/
theorem ofText_ofList (s : List Char) :
    Policy.Model.ofText (String.ofList s) =
      match Policy.assignments [] .nothing (Text.lines s) with
      | .error e => .error e
      | .ok as => Policy.Model.ofAssignments as := by
  unfold Policy.Model.ofText
  cases has : Policy.assignments [] .nothing (Text.lines s) with
  | error e => simp only [String.toList_ofList, has]
  | ok as => simp only [String.toList_ofList, has]

/-- By the policy of the files, a user that has the role may ask for its identity. -/
theorem engine_allows :
    ∃ engine, Policy.Engine.ofSource files settings.policy.source = .ok engine ∧
      (engine.ensureRoles Uuid.nil.toString [Role.user]).1.enforce Uuid.nil.toString (whoami "").path "GET" =
        .ok true := by
  -- Whether the policy allows the request is evaluated from the characters of the model, not from its file.
  have hallows :
      ((Policy.Engine.ofSource files settings.policy.source).toOption.bind fun engine =>
        ((engine.ensureRoles Uuid.nil.toString [Role.user]).1.enforce Uuid.nil.toString (whoami "").path
          "GET").toOption) = some true := by
    simp only [Policy.Engine.ofSource, Policy.Engine.build, modelText_eq, rules_eq, bind, Except.bind, ofText_ofList]
    decide +kernel
  obtain ⟨engine, hengine, henforce⟩ := Option.bind_eq_some_iff.1 hallows
  exact ⟨engine, toOption_eq_some_iff.1 hengine, toOption_eq_some_iff.1 henforce⟩

/-- A request with a token is on its way to the guard. -/
theorem whoami_route (token : String) : (whoami token).route = .ok .whoami := by
  have hempty : (whoami "").route = .ok .whoami := by rfl
  rw [← hempty]
  exact Request.route_congr rfl rfl

/-- A request to log out is not on its way to the guard. -/
theorem logout_route (token : String) : (logout token).route = .ok .logout := by
  have hempty : (logout "").route = .ok .logout := by rfl
  rw [← hempty]
  exact Request.route_congr rfl rfl

/-- The header of a request with a token holds the token behind the scheme. -/
theorem whoami_header (token : String) :
    (whoami token).header? Request.authorizationHeader = some (Text.Utf8.ofString ("Bearer " ++ token)) := by
  have hname : "authorization".toList.map Text.lowerAscii = Request.authorizationHeader.toList := by rfl
  unfold Request.header? whoami
  rw [List.find?_cons_of_pos]
  · rfl
  · exact decide_eq_true hname

/-- A request with a token that was made carries it as its credential. -/
theorem whoami_credential (maker : TokenMaker) (claims : Claims) :
    (whoami (maker.sign claims)).credential = .ok (maker.sign claims) :=
  Request.credential_bearer (whoami_header _)

/-- With the settings the service starts. -/
theorem serve_eq {engine : Policy.Engine} (h : Policy.Engine.ofSource files settings.policy.source = .ok engine) :
    start.serve files settings =
      .ok ⟨settings.server.address, { auth := .initial users, components := .of maker engine flow }⟩ :=
  Startup.serve_eq_ok_iff.2 ⟨maker, users, engine, flow, rfl, rfl, h, rfl, rfl⟩

/-- The roles of the user are registered by the request with the access token, and by no other request. -/
theorem engineAfter_eq {engine : Policy.Engine} {accessToken : String} {claims : Claims} (refreshToken : String)
    (hsign : accessToken = maker.sign claims) (hverify : maker.verify Instant.epoch accessToken = .ok claims) :
    engineAfter maker engine
      [(Instant.epoch, .request login), (Instant.epoch, .request (whoami accessToken)),
        (Instant.epoch, .request (logout refreshToken))] = registered engine claims := by
  have hlogin : guardedClaims maker Instant.epoch login = none := by
    have hroute : login.route = .ok .login := by rfl
    simp only [guardedClaims, hroute]
  have hwhoami : guardedClaims maker Instant.epoch (whoami accessToken) = some claims := by
    rw [hsign] at hverify ⊢
    simp only [guardedClaims, whoami_route, whoami_credential, hverify, Except.toOption]
  have hlogout : guardedClaims maker Instant.epoch (logout refreshToken) = none := by
    simp only [guardedClaims, logout_route]
  simp only [engineAfter, hlogin, hwhoami, hlogout]

/-- A user logs in, asks for its identity with the access token and asks to be logged out with the refresh token. A
request with the refresh token is let through all the same. -/
theorem guard_admits_refreshToken_of_logged_out :
    ∃ ready o, start.serve files settings = .ok ready ∧ ready.service.LogsIn Instant.epoch login o ∧
      ∃ claims,
        ((ready.service.run
          [(Instant.epoch, .request login), (Instant.epoch, .request (whoami o.accessToken)),
            (Instant.epoch, .request (logout o.refreshToken))]).components.guard
              Instant.epoch (whoami o.refreshToken)).passage = .admitted claims := by
  obtain ⟨engine, hengine, hallows⟩ := engine_allows
  have hserve := serve_eq hengine
  obtain ⟨s, o, hlogin, huser, haccessEnd, hrefreshEnd⟩ :=
    @Auth.Flow.login_succeeds flow Instant.epoch (.initial users) request alice
      { seconds := 900, nanos := 0 } { seconds := 86400, nanos := 0 } rfl rfl verify_request (by decide) (by decide) rfl
  have hopens := Auth.Flow.opens_of_login hlogin
  obtain ⟨haccess, _, _, hclaims⟩ := TokenMaker.issue_eq_ok_iff.1 hopens.access_eq
  obtain ⟨hrefresh, -⟩ := TokenMaker.issue_eq_ok_iff.1 hopens.refresh_eq
  have hverify : flow.maker.verify Instant.epoch o.accessToken = .ok o.accessClaims := by
    have hauthentic := TokenMaker.authentic_of_issue hopens.access_eq (by decide) (by decide) (by decide)
    have hbegin : o.accessClaims.notBefore = Instant.epoch := by
      rw [hclaims]
      rfl
    rw [hauthentic.verify, haccessEnd, hbegin]
    rfl
  have hlogs : Service.LogsIn { auth := .initial users, components := .of maker engine flow } Instant.epoch login o :=
    ⟨by rfl, ⟨"alice", "secret"⟩, flow, by rfl, rfl, congrArg Prod.snd hlogin⟩
  have hcredential : (whoami o.refreshToken).credential = .ok o.refreshToken := by
    rw [hrefresh]
    exact whoami_credential flow.maker o.refreshClaims
  obtain ⟨maker', engine', hmaker', hengine', hiff, -⟩ :=
    guard_admits_refreshToken_iff (by decide) hserve []
      [(Instant.epoch, .request (whoami o.accessToken)), (Instant.epoch, .request (logout o.refreshToken))]
      Instant.epoch hlogs (by decide) (by decide) hcredential
  obtain rfl : maker = maker' := Except.ok.inj (Eq.trans rfl hmaker')
  obtain rfl : engine = engine' := Except.ok.inj (hengine.symm.trans hengine')
  refine ⟨_, o, hserve, hlogs, hiff.2 ⟨by rw [hrefreshEnd]; decide, ?_⟩⟩
  rw [List.nil_append, engineAfter_eq o.refreshToken haccess hverify, huser, registered, hclaims, huser]
  exact hallows

end Sample

end Gatehouse.Http
