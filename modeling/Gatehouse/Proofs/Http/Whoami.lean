import Mathlib
import Gatehouse.Proofs.Http.RefreshToken
import Gatehouse.Proofs.Policy.Decision

/-!
# The guarded route

A request for the identity of its caller is answered in one of three ways. Without a bearer credential that verifies
it is not authenticated, and nothing changes; with one, the roles of the token are registered, and then the policy
decides whether the answer is the identity in the token or that it is forbidden.
-/

namespace Gatehouse.Http

/-! ## Credentials -/

/-- A text is a bearer credential with a token: the scheme in letters of either case, the token as the second word, and
anything behind it. -/
def IsBearer (text token : String) : Prop :=
  ∃ scheme rest, Text.words text.toList = scheme :: token.toList :: rest ∧
    scheme.map Text.lowerAscii = bearerScheme.toList

/-- The token of a bearer credential is found. -/
theorem bearerToken_of_isBearer {text token : String} (h : IsBearer text token) :
    bearerToken (some text) = .ok token := by
  obtain ⟨scheme, rest, hwords, hscheme⟩ := h
  unfold bearerToken
  dsimp only
  rw [hwords]
  dsimp only
  rw [if_pos hscheme, String.ofList_toList]

/-- What is no bearer credential has no token. -/
theorem bearerToken_of_not_isBearer {text : String} (h : ∀ token, ¬IsBearer text token) :
    bearerToken (some text) = .error .notAuthenticated := by
  unfold bearerToken
  dsimp only
  split
  · next scheme token rest hwords =>
    split_ifs with hscheme
    · exact absurd ⟨scheme, rest, by rw [hwords, String.toList_ofList], hscheme⟩ (h (String.ofList token))
    · rfl
  · rfl

namespace Request

/-- A request bears a token: its authorization header is visible text and a bearer credential with this token. -/
def Bears (request : Request) (token : String) : Prop :=
  ∃ value text, request.header? authorizationHeader = some value ∧ visibleText? value = some text ∧ IsBearer text token

/-- Why a request is not authenticated. -/
inductive Unauthenticated (maker : TokenMaker) (now : Instant) (request : Request) : Prop
  | absent (hheader : request.header? authorizationHeader = none)
  | invisible {value : List UInt8} (hheader : request.header? authorizationHeader = some value)
      (htext : visibleText? value = none)
  | malformed {value : List UInt8} {text : String} (hheader : request.header? authorizationHeader = some value)
      (htext : visibleText? value = some text) (hbearer : ∀ token, ¬IsBearer text token)
  | rejected {token : String} {e : TokenError} (hbears : request.Bears token)
      (hverify : maker.verify now token = .error e)

variable {request : Request} {token : String}

/-- The token that a request bears is its credential. -/
theorem credential_of_bears (h : request.Bears token) : request.credential = .ok token := by
  obtain ⟨value, text, hheader, htext, hbearer⟩ := h
  unfold credential
  rw [hheader]
  dsimp only
  rw [htext]
  exact bearerToken_of_isBearer hbearer

/-- A request that bears no token has no header, or one that is not visible, or one that is no bearer credential. -/
theorem unauthenticated_of_not_bears (maker : TokenMaker) (now : Instant) (h : ∀ token, ¬request.Bears token) :
    request.Unauthenticated maker now := by
  cases hheader : request.header? authorizationHeader with
  | none => exact .absent hheader
  | some value =>
    cases htext : visibleText? value with
    | none => exact .invisible hheader htext
    | some text => exact .malformed hheader htext fun token hbearer => h token ⟨value, text, hheader, htext, hbearer⟩

/-- A request that bears no token has no credential. -/
theorem credential_of_not_bears (h : ∀ token, ¬request.Bears token) :
    request.credential = .error .notAuthenticated := by
  unfold credential
  split
  · rfl
  · next value hheader =>
    split
    · next text htext =>
      exact bearerToken_of_not_isBearer fun token hbearer => h token ⟨value, text, hheader, htext, hbearer⟩
    · rfl

/-- The credential of a request is the token that it bears. -/
theorem bears_of_credential (h : request.credential = .ok token) : request.Bears token := by
  by_cases hbears : ∃ token, request.Bears token
  · obtain ⟨other, hother⟩ := hbears
    obtain rfl := Except.ok.inj (h.symm.trans (credential_of_bears hother))
    exact hother
  · have hnone : request.credential = .error .notAuthenticated :=
      credential_of_not_bears fun token hb => hbears ⟨token, hb⟩
    rw [h] at hnone
    cases hnone

/-- A request that is not authenticated bears no token, or one that does not verify. -/
theorem Unauthenticated.not_verified {maker : TokenMaker} {now : Instant} (h : request.Unauthenticated maker now)
    (hbears : request.Bears token) (claims : Claims) : maker.verify now token ≠ .ok claims := by
  obtain ⟨value, text, hheader, htext, hbearer⟩ := id hbears
  intro hverify
  cases h with
  | absent hnone =>
    rw [hheader] at hnone
    cases hnone
  | invisible hheader' htext' =>
    obtain rfl := Option.some.inj (hheader.symm.trans hheader')
    rw [htext] at htext'
    cases htext'
  | malformed hheader' htext' hnone =>
    obtain rfl := Option.some.inj (hheader.symm.trans hheader')
    obtain rfl := Option.some.inj (htext.symm.trans htext')
    exact hnone token hbearer
  | rejected hbears' hverify' =>
    obtain rfl := Except.ok.inj ((credential_of_bears hbears).symm.trans (credential_of_bears hbears'))
    rw [hverify] at hverify'
    cases hverify'

/-- A request is authenticated by a token that verifies, and by nothing else. -/
theorem authenticated_iff {maker : TokenMaker} {now : Instant} :
    ¬request.Unauthenticated maker now ↔ ∃ token claims, request.Bears token ∧ maker.verify now token = .ok claims := by
  constructor
  · intro h
    by_cases hbears : ∃ token, request.Bears token
    · obtain ⟨token, hbears⟩ := hbears
      cases hverify : maker.verify now token with
      | error e => exact absurd (.rejected hbears hverify) h
      | ok claims => exact ⟨token, claims, hbears, hverify⟩
    · exact absurd (unauthenticated_of_not_bears maker now fun token hb => hbears ⟨token, hb⟩) h
  · rintro ⟨token, claims, hbears, hverify⟩ h
    exact h.not_verified hbears claims hverify

end Request

/-! ## Answers -/

section Answer

variable {maker : TokenMaker} {engine : Policy.Engine} {flow : Auth.Flow} {now : Instant} {request : Request}

/-- Registering the roles of claims changes neither model nor rules. -/
theorem registered_model_rules (engine : Policy.Engine) (claims : Claims) :
    (registered engine claims).model = engine.model ∧ (registered engine claims).rules = engine.rules :=
  engine.ensureRoles_model_rules claims.userId.toString claims.roles

variable [Pattern.RegexEngine]

/-- A request that is not authenticated is refused as such, and changes no component. A token is verified if there is
one. -/
theorem guard_of_unauthenticated (engine : Policy.Engine) (flow : Auth.Flow) (h : request.Unauthenticated maker now) :
    ∃ verified, (Components.of maker engine flow).guard now request =
        ⟨.of maker engine flow, .refused .notAuthenticated, verified⟩ ∧
      (verified = 0 ↔ ∀ token, ¬request.Bears token) := by
  by_cases hbears : ∃ token, request.Bears token
  · obtain ⟨token, hbears⟩ := hbears
    have hcredential := Request.credential_of_bears hbears
    refine ⟨1, ?_, fun hzero => absurd hzero one_ne_zero, fun hnone => absurd hbears (hnone token)⟩
    cases hverify : maker.verify now token with
    | error e => simp only [Components.guard, hcredential, Components.getMaker, Components.of, Components.get, hverify]
    | ok claims => exact absurd hverify (h.not_verified hbears claims)
  · have hnone : ∀ token, ¬request.Bears token := fun token hb => hbears ⟨token, hb⟩
    have hcredential := Request.credential_of_not_bears hnone
    refine ⟨0, ?_, fun _ => hnone, fun _ => rfl⟩
    simp only [Components.guard, hcredential]

/-- A request for the identity of its caller that is not authenticated. -/
theorem handle_of_unauthenticated {service : Service} (hcomponents : service.components = .of maker engine flow)
    (hroute : request.route = .ok .whoami) (h : request.Unauthenticated maker now) :
    ∃ verified, service.handle now request =
        ⟨service, some (.json .unauthorized (.object [("error", .string "Unauthorized")])), verified⟩ ∧
      (verified = 0 ↔ ∀ token, ¬request.Bears token) := by
  obtain ⟨verified, hguard, hzero⟩ := guard_of_unauthenticated engine flow h
  refine ⟨verified, ?_, hzero⟩
  obtain ⟨components, auth⟩ := service
  obtain rfl : components = .of maker engine flow := hcomponents
  unfold Service.handle
  rw [hroute]
  dsimp only
  unfold Service.whoami
  dsimp only
  rw [hguard]
  rfl

variable [Pattern.LawfulRegexEngine]

/-- Under the built-in model, with patterns that all make expressions, verified claims are decided by the policy after
their roles were registered. -/
theorem authorize_builtin (hmodel : engine.model = .builtin)
    (hpatterns : ∀ rule ∈ engine.rules, Pattern.Compiles rule.resource) (c : Components) (claims : Claims)
    (request : Request) :
    ∃ allowed, (registered engine claims).enforce claims.userId.toString request.path request.method = .ok allowed ∧
      c.authorize engine claims request =
        ({ c with engine := some (registered engine claims), claims := some claims },
          if allowed then .admitted claims
          else .refused (.forbidden (request.method ++ " " ++ request.path ++ " is not permitted"))) := by
  have hregistered : engine.ensureRoles claims.userId.toString claims.roles = (registered engine claims, .ok ()) :=
    Prod.ext rfl (by rw [Policy.Engine.ensureRoles_builtin hmodel])
  obtain ⟨hkept, hrules⟩ := registered_model_rules engine claims
  have hpatterns' : ∀ rule ∈ (registered engine claims).decisive, Pattern.Compiles rule.resource :=
    Policy.Engine.compiles_of_mem_decisive (hrules ▸ hpatterns)
  obtain ⟨allowed, henforce, -⟩ := Policy.Engine.enforce_builtin (hkept.trans hmodel) hpatterns'
    claims.userId.toString request.path request.method
  refine ⟨allowed, henforce, ?_⟩
  unfold Components.authorize
  dsimp only
  rw [hregistered]
  dsimp only
  rw [henforce]
  cases allowed with
  | true => rfl
  | false => rfl

/-- A request for the identity of its caller with a token that verifies. -/
theorem handle_of_verified {service : Service} {token : String} {claims : Claims}
    (hcomponents : service.components = .of maker engine flow) (hmodel : engine.model = .builtin)
    (hpatterns : ∀ rule ∈ engine.rules, Pattern.Compiles rule.resource) (hroute : request.route = .ok .whoami)
    (hbears : request.Bears token) (hverify : maker.verify now token = .ok claims) :
    ∃ allowed, (registered engine claims).enforce claims.userId.toString request.path request.method = .ok allowed ∧
      service.handle now request =
        ⟨{ service with components := .of maker (registered engine claims) flow },
          some (if allowed then .json .ok (Service.identity claims)
            else .json .forbidden (.object [("error", .string "Forbidden")])), 1⟩ := by
  obtain ⟨allowed, henforce, hauthorize⟩ :=
    authorize_builtin hmodel hpatterns (.of maker engine flow) claims request
  refine ⟨allowed, henforce, ?_⟩
  have hguard : (Components.of maker engine flow).guard now request = _ :=
    guard_of_verified (Request.credential_of_bears hbears) hverify
  rw [hauthorize] at hguard
  obtain ⟨components, auth⟩ := service
  obtain rfl : components = .of maker engine flow := hcomponents
  unfold Service.handle
  rw [hroute]
  dsimp only
  unfold Service.whoami
  dsimp only
  rw [hguard]
  cases allowed with
  | true => rfl
  | false => rfl

/-- Let a service have every component, with an engine of the built-in model whose patterns all make expressions, and
let a request be for the identity of its caller. It is answered that it is not authenticated exactly when it bears no
token or one that does not verify; then nothing changes, and a token is only verified if there is one. Otherwise the
roles of the token become registered for its user, nothing else changes, and the policy decides on the user, the path
and the method: the answer is the identity in the token, or that it is forbidden. -/
theorem Service.handle_whoami {service : Service} (now : Instant)
    (hcomponents : service.components = .of maker engine flow)
    (hmodel : Policy.Model.ofText Policy.defaultModelText = .ok engine.model)
    (hpatterns : ∀ rule ∈ engine.rules, Pattern.Compiles rule.resource) (hroute : request.route = .ok .whoami) :
    let handled := service.handle now request
    (∃ response, handled.response = some response ∧
      (response.status = .unauthorized ↔ request.Unauthenticated maker now)) ∧
    (handled.verified = 0 ↔ ∀ token, ¬request.Bears token) ∧
    (request.Unauthenticated maker now → handled.service = service ∧
      handled.response = some (.json .unauthorized (.object [("error", .string "Unauthorized")]))) ∧
    (¬request.Unauthenticated maker now →
      ∃ token claims, request.Bears token ∧ maker.verify now token = .ok claims ∧
        let subject := claims.userId.toString
        let after := (engine.ensureRoles subject claims.roles).1
        handled.service = { service with components := .of maker after flow } ∧
        ∃ allowed, after.enforce subject request.path request.method = .ok allowed ∧
          handled.response = some (if allowed then
              .json .ok (.object
                [("user_id", .string subject), ("roles", .list (claims.roles.map fun r => .string r.name)),
                  ("expires_at", .string claims.expireAt.rfc3339)])
            else .json .forbidden (.object [("error", .string "Forbidden")]))) := by
  have hbuiltin : engine.model = .builtin := by
    rw [Policy.Model.ofText_default] at hmodel
    exact (Except.ok.inj hmodel).symm
  intro handled
  by_cases hunauthenticated : request.Unauthenticated maker now
  · obtain ⟨verified, hhandled, hzero⟩ := handle_of_unauthenticated hcomponents hroute hunauthenticated
    have hall :
        handled = ⟨service, some (.json .unauthorized (.object [("error", .string "Unauthorized")])), verified⟩ :=
      hhandled
    rw [hall]
    exact ⟨⟨_, rfl, fun _ => hunauthenticated, fun _ => rfl⟩, hzero, fun _ => ⟨rfl, rfl⟩,
      fun h => absurd hunauthenticated h⟩
  · obtain ⟨token, claims, hbears, hverify⟩ := Request.authenticated_iff.1 hunauthenticated
    obtain ⟨allowed, henforce, hhandled⟩ :=
      handle_of_verified hcomponents hbuiltin hpatterns hroute hbears hverify
    have hall : handled = _ := hhandled
    rw [hall]
    refine ⟨⟨_, rfl, ?_, fun h => absurd h hunauthenticated⟩, ?_, fun h => absurd h hunauthenticated,
      fun _ => ⟨token, claims, hbears, hverify, rfl, allowed, henforce, rfl⟩⟩
    · intro hstatus
      cases allowed with
      | true => cases hstatus
      | false => cases hstatus
    · exact ⟨fun h => absurd h one_ne_zero, fun hnone => absurd hbears (hnone token)⟩

end Answer

namespace Sample

open Auth.Sample (users)

/-- An engine by which users may ask for their identity. -/
def identityEngine : Policy.Engine := ⟨.builtin, [⟨"user", "/api/v1/whoami", "GET", .allow⟩], []⟩

/-- The claims of a token that is issued to a user at the epoch. -/
def userClaims : Claims :=
  { id := .nil, userId := .nil, issuedAt := Instant.epoch,
    expireAt := { seconds := 900, nanos := 0, nanos_lt := Instant.epoch.nanos_lt }, notBefore := Instant.epoch,
    audience := "players", issuer := "gate", subject := Claims.subjectText, roles := [Role.user] }

/-- The token with these claims verifies at the epoch. -/
theorem verify_sign_userClaims : maker.verify Instant.epoch (maker.sign userClaims) = .ok userClaims := by
  have hissue : maker.issue Instant.epoch .nil .nil [Role.user] flow.accessLifetime =
      .ok (maker.sign userClaims, userClaims) :=
    TokenMaker.issue_eq_ok_iff.2 ⟨rfl, userClaims.expireAt, by decide, rfl⟩
  rw [(TokenMaker.authentic_of_issue hissue (by decide) (by decide) (by decide)).verify]
  rfl

/-- The path of a request for the identity of the caller. -/
theorem whoami_path (token : String) : (whoami token).path = (whoami "").path := by
  unfold Request.path
  rfl

/-- A user with a role that may ask for its identity is answered with it. -/
theorem whoami_of_user :
    (Service.handle { auth := .initial users, components := .of maker identityEngine flow } Instant.epoch
      (whoami (maker.sign userClaims))).response =
        some (.json .ok (.object
          [("user_id", .string Uuid.nil.toString), ("roles", .list [.string "user"]),
            ("expires_at", .string userClaims.expireAt.rfc3339)])) := by
  have hverify := verify_sign_userClaims
  have hcredential := whoami_credential maker userClaims
  generalize maker.sign userClaims = token at hverify hcredential
  have hallowed : (identityEngine.ensureRoles userClaims.userId.toString userClaims.roles).1.enforce
      userClaims.userId.toString (whoami token).path (whoami token).method = .ok true := by
    have hmethod : (whoami token).method = "GET" := rfl
    rw [whoami_path, hmethod]
    decide +kernel
  generalize hservice : ({ auth := .initial users, components := .of maker identityEngine flow } : Service) = service
  have hcomponents : service.components = .of maker identityEngine flow := by
    rw [← hservice]
  obtain ⟨-, -, -, hauthenticated⟩ := Service.handle_whoami Instant.epoch hcomponents Policy.Model.ofText_default
    (by decide +kernel) (whoami_route token)
  obtain ⟨found, claims, hbears, hfound, -, allowed, henforce, hresponse⟩ := hauthenticated
    (Request.authenticated_iff.2 ⟨token, userClaims, Request.bears_of_credential hcredential, hverify⟩)
  obtain rfl := Except.ok.inj (hcredential.symm.trans (Request.credential_of_bears hbears))
  obtain rfl : userClaims = claims := Except.ok.inj (hverify.symm.trans hfound)
  rw [hallowed] at henforce
  obtain rfl : true = allowed := Except.ok.inj henforce
  rw [if_pos rfl] at hresponse
  exact hresponse

end Sample

end Gatehouse.Http
