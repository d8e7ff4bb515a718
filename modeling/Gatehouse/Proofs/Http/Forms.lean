import Mathlib
import Gatehouse.Proofs.Auth.Failures
import Gatehouse.Proofs.Http.RefreshToken
import Gatehouse.Proofs.Text.Blank

/-!
# Requests with a form

A login asks for a name and a password of certain lengths, a renewal and a logout for a token that is not blank. A
request without such a form is refused whatever the service and the time are, so that nothing is looked up for it and no
token is made or verified. A request with one is answered by the flow, which is given what the form holds: the stores
are those after its call, and the response is its outcome or shows what kind of failure it was (`Service.handle_form`).
-/

namespace Gatehouse.Http

open Outcome

/-! ## Forms -/

/-- A login form with which a login is tried: a name of 3 to 40 characters, all alphanumeric, and a password of 6 to 40
characters. -/
structure LoginForm.Valid (form : LoginForm) : Prop where
  username_length : 3 ≤ form.username.length ∧ form.username.length ≤ 40
  username_alphanumeric : ∀ c ∈ form.username.toList, Text.isAlphanumeric c = true
  password_length : 6 ≤ form.password.length ∧ form.password.length ≤ 40

/-- A refresh form with which a renewal or a logout is tried: its token is not blank. -/
def RefreshForm.Valid (form : RefreshForm) : Prop := ∃ c ∈ form.refreshToken.toList, Text.isBlank c = false

/-- The login that a request with a form asks for. -/
def LoginForm.login (form : LoginForm) (request : Request) : Auth.LoginRequest :=
  { username := form.username, password := form.password, userAgent := request.userAgent,
    clientIp := request.client.getD "" }

/-- Two bounds on the length of a text. -/
theorem LoginForm.hasLength_iff {least most : Nat} {s : String} :
    hasLength least most s = true ↔ least ≤ s.length ∧ s.length ≤ most := by
  rw [hasLength, Bool.and_eq_true, decide_eq_true_eq, decide_eq_true_eq]

/-- What the check of a login form asks. -/
theorem LoginForm.check_eq_ok_iff {form : LoginForm} : form.check = .ok () ↔ form.Valid := by
  unfold check
  constructor
  · intro h
    split_ifs at h with husername hpassword
    simp only [Bool.not_eq_true', Bool.not_eq_false, Bool.and_eq_true, List.all_eq_true, hasLength_iff]
      at husername hpassword
    exact ⟨husername.1, husername.2, hpassword⟩
  · rintro ⟨hlength, halphanumeric, hpassword⟩
    rw [if_neg, if_neg]
    · simpa only [Bool.not_eq_true', Bool.not_eq_false, hasLength_iff] using hpassword
    · simpa only [Bool.not_eq_true', Bool.not_eq_false, Bool.and_eq_true, List.all_eq_true, hasLength_iff] using
        ⟨hlength, halphanumeric⟩

variable {request : Request} {e : ApiError}

/-- A body that holds no record of its kind is a bad request. -/
theorem Request.status_of_record {σ α : Type} {record : Json.Record σ α} (h : request.record record = .error e) :
    e.status = .badRequest := by
  unfold Request.record at h
  dsimp only at h
  generalize (if request.body.isEmpty then Text.Utf8.ofString "null" else request.body) = body at h
  split_ifs at h
  · obtain rfl := Except.error.inj h
    rfl
  · obtain ⟨fault, -, rfl⟩ := mapError_eq_error_iff.1 h
    rfl
  · obtain rfl := Except.error.inj h
    rfl

/-- A body that is too long holds no record. -/
theorem Request.record_ne_ok_of_bodyLimit_lt {σ α : Type} (record : Json.Record σ α)
    (hlong : bodyLimit < request.body.length) (a : α) : request.record record ≠ .ok a := by
  unfold Request.record
  dsimp only
  rw [if_pos hlong]
  split_ifs
  · nofun
  · nofun

/-- The form of a login is the one in the body, if it is valid. -/
theorem LoginForm.ofRequest_eq_ok_iff {form : LoginForm} :
    ofRequest request = .ok form ↔ request.record record = .ok form ∧ form.Valid := by
  unfold ofRequest
  simp only [bind_eq_ok_iff, ← check_eq_ok_iff]
  constructor
  · rintro ⟨_, hrecord, ⟨⟩, hcheck, hform⟩
    obtain rfl := Except.ok.inj hform
    exact ⟨hrecord, hcheck⟩
  · rintro ⟨hrecord, hcheck⟩
    exact ⟨form, hrecord, (), hcheck, rfl⟩

/-- Without a valid form there is a bad request. -/
theorem LoginForm.status_of_ofRequest (h : ofRequest request = .error e) : e.status = .badRequest := by
  unfold ofRequest at h
  rcases bind_eq_error_iff.1 h with hrecord | ⟨form, -, hrest⟩
  · exact Request.status_of_record hrecord
  rcases bind_eq_error_iff.1 hrest with hcheck | ⟨-, -, hform⟩
  · unfold check at hcheck
    split_ifs at hcheck
    all_goals
      obtain rfl := Except.error.inj hcheck
      rfl
  · cases hform

/-- The form of a renewal or a logout is the one in the body, if it is valid. -/
theorem RefreshForm.ofRequest_eq_ok_iff {form : RefreshForm} :
    ofRequest request = .ok form ↔ request.record record = .ok form ∧ form.Valid := by
  have hvalid (form : RefreshForm) : form.Valid ↔ ¬(Text.trim form.refreshToken.toList).isEmpty = true := by
    simp only [Text.trim_isEmpty_iff, Valid, not_forall, exists_prop, Bool.not_eq_true]
  unfold ofRequest
  rw [bind_eq_ok_iff, hvalid]
  constructor
  · rintro ⟨_, hrecord, hform⟩
    split_ifs at hform with hblank
    obtain rfl := Except.ok.inj hform
    exact ⟨hrecord, hblank⟩
  · rintro ⟨hrecord, hblank⟩
    exact ⟨form, hrecord, if_neg hblank⟩

@[inherit_doc LoginForm.status_of_ofRequest]
theorem RefreshForm.status_of_ofRequest (h : ofRequest request = .error e) : e.status = .badRequest := by
  unfold ofRequest at h
  rcases bind_eq_error_iff.1 h with hrecord | ⟨form, -, hform⟩
  · exact Request.status_of_record hrecord
  · split_ifs at hform
    · obtain rfl := Except.error.inj hform
      rfl
    · cases hform

/-! ## Responses -/

/-- What the client is shown of a failure of the flow: a status, and a text for it. -/
def failureShown : ServiceError → Status × String
  | .notAuthenticated | .token _ => (.unauthorized, "Unauthorized")
  | .notFound _ => (.notFound, "Not found")
  | _ => (.internal, "Internal server error")

/-- The response to a failure of the flow. -/
def failureResponse (e : ServiceError) : Response :=
  .json (failureShown e).1 (.object [("error", .string (failureShown e).2)])

/-- A failure of the flow is answered by its kind alone. -/
theorem response_of_fails {flow : Auth.Flow} {now : Instant} {e : ServiceError} (h : flow.Fails now e) :
    (ApiError.service e).response = failureResponse e := by
  cases h with
  | token => rfl
  | store e => cases e <;> rfl
  | password hpassword =>
    rcases Auth.password_error hpassword with rfl | ⟨text, rfl⟩
    · rfl
    · rfl
  | issue => rfl

/-- A bad request is answered with its error in words. -/
theorem ApiError.response_of_badRequest (h : e.status = .badRequest) :
    e.response = .json .badRequest (.object [("error", .string e.message)]) := by
  rw [response, publicMessage, h]

/-- A request was handled by a call of the flow: the stores are those after the call, and the response is the answer to
its outcome or to its failure. -/
structure Handled.Reports {α : Type} (handled : Handled) (service : Service)
    (call : Auth.State × Except ServiceError α) (answer : α → Response) : Prop where
  service_eq : handled.service = { service with auth := call.1 }
  response_of_ok : ∀ outcome, call.2 = .ok outcome → handled.response = some (answer outcome)
  response_of_error : ∀ e, call.2 = .error e → handled.response = some (failureResponse e)

section

variable {service : Service} {flow : Auth.Flow} {now : Instant}

/-- A flow that is there is at hand. -/
theorem Components.getFlow_eq_ok {components : Components} (h : components.flow = some flow) :
    components.getFlow = .ok flow := by
  rw [getFlow, h]
  rfl

/-- An operation on the token of a valid form is reported. -/
theorem withToken_reports {α : Type} {form : RefreshForm} {answer : α → Response}
    {operation : Auth.Flow → Auth.State → String → Auth.State × Except ServiceError α}
    (hflow : service.components.flow = some flow) (hread : RefreshForm.ofRequest request = .ok form)
    (hfails : ∀ {s' e}, operation flow service.auth form.refreshToken = (s', .error e) → flow.Fails now e) :
    (service.withToken request operation answer).Reports service (operation flow service.auth form.refreshToken)
      answer := by
  unfold Service.withToken
  rw [hread, Components.getFlow_eq_ok hflow]
  dsimp only
  refine ⟨rfl, fun outcome houtcome => ?_, fun e he => ?_⟩
  · rw [houtcome]
  · rw [he, ← response_of_fails (hfails (Prod.ext rfl he))]

variable [Pattern.RegexEngine]

/-- A request is refused: whatever the service is and whenever it comes, the service stays as it is, no token is verified
and the response is that the request is bad, with the same text. -/
def Request.Refused (request : Request) : Prop :=
  ∃ text : String, ∀ (service : Service) (now : Instant),
    service.handle now request = ⟨service, some (.json .badRequest (.object [("error", .string text)])), 0⟩

/-- A login without a valid form is refused. -/
theorem refused_of_login (hroute : request.route = .ok .login)
    (hform : ¬∃ form, request.record LoginForm.record = .ok form ∧ form.Valid) : request.Refused := by
  cases hread : LoginForm.ofRequest request with
  | ok form => exact absurd ⟨form, LoginForm.ofRequest_eq_ok_iff.1 hread⟩ hform
  | error e =>
    refine ⟨e.message, fun service now => ?_⟩
    rw [← ApiError.response_of_badRequest (LoginForm.status_of_ofRequest hread)]
    simp only [Service.handle, hroute, Service.login, hread]

/-- A renewal or a logout without a valid form is refused. -/
theorem refused_of_refreshForm (hroute : request.route = .ok .renew ∨ request.route = .ok .logout)
    (hform : ¬∃ form, request.record RefreshForm.record = .ok form ∧ form.Valid) : request.Refused := by
  cases hread : RefreshForm.ofRequest request with
  | ok form => exact absurd ⟨form, RefreshForm.ofRequest_eq_ok_iff.1 hread⟩ hform
  | error e =>
    refine ⟨e.message, fun service now => ?_⟩
    rw [← ApiError.response_of_badRequest (RefreshForm.status_of_ofRequest hread)]
    rcases hroute with hroute | hroute
    · simp only [Service.handle, hroute, Service.withToken, hread]
    · simp only [Service.handle, hroute, Service.withToken, hread]

/-- A login, a renewal or a logout with a body that is too long is refused, whatever the body holds. -/
theorem refused_of_bodyLimit_lt {route : Route} (hroute : request.route = .ok route)
    (hform : route ∈ [.login, .renew, .logout]) (hlong : Request.bodyLimit < request.body.length) : request.Refused := by
  have hnone {σ α : Type} (record : Json.Record σ α) (valid : α → Prop) :
      ¬∃ form, request.record record = .ok form ∧ valid form := by
    rintro ⟨form, hrecord, -⟩
    exact Request.record_ne_ok_of_bodyLimit_lt record hlong form hrecord
  simp only [List.mem_cons, List.not_mem_nil, or_false] at hform
  rcases hform with rfl | rfl | rfl
  · exact refused_of_login hroute (hnone _ _)
  · exact refused_of_refreshForm (Or.inl hroute) (hnone _ _)
  · exact refused_of_refreshForm (Or.inr hroute) (hnone _ _)

/-- A login with a valid form is reported. -/
theorem handle_login {form : LoginForm} (hroute : request.route = .ok .login)
    (hflow : service.components.flow = some flow) (hread : LoginForm.ofRequest request = .ok form) :
    (service.handle now request).Reports service (flow.login now service.auth (form.login request))
      fun o => .json .ok o.json := by
  rw [Service.handle, hroute]
  dsimp only
  unfold Service.login
  rw [hread, Components.getFlow_eq_ok hflow]
  dsimp only
  refine ⟨rfl, fun outcome houtcome => ?_, fun e he => ?_⟩
  · rw [LoginForm.login] at houtcome
    rw [houtcome]
  · rw [← response_of_fails (Auth.Flow.fails_of_login (Prod.ext rfl he))]
    rw [LoginForm.login] at he
    rw [he]

/-- Let the flow be at hand. A login, a renewal or a logout without a valid form in its body is refused. With a valid form
it is the flow's operation with what the form holds, to the letter: the stores are those after the operation, and the
response is its outcome, or shows what kind of failure it was, whatever the stores and the token maker answered. -/
theorem Service.handle_form (hflow : service.components.flow = some flow) (now : Instant) (request : Request) :
    (request.route = .ok .login →
      ((¬∃ form, request.record LoginForm.record = .ok form ∧ form.Valid) → request.Refused) ∧
      ∀ form, request.record LoginForm.record = .ok form → form.Valid →
        (service.handle now request).Reports service (flow.login now service.auth (form.login request))
          fun o => .json .ok o.json) ∧
    (request.route = .ok .renew →
      ((¬∃ form, request.record RefreshForm.record = .ok form ∧ form.Valid) → request.Refused) ∧
      ∀ form, request.record RefreshForm.record = .ok form → form.Valid →
        (service.handle now request).Reports service (flow.refresh now service.auth form.refreshToken)
          fun o => .json .ok o.json) ∧
    (request.route = .ok .logout →
      ((¬∃ form, request.record RefreshForm.record = .ok form ∧ form.Valid) → request.Refused) ∧
      ∀ form, request.record RefreshForm.record = .ok form → form.Valid →
        (service.handle now request).Reports service (flow.logout now service.auth form.refreshToken)
          fun _ => .bare .ok) := by
  refine ⟨fun hroute => ⟨refused_of_login hroute, fun form hrecord hvalid => ?_⟩,
    fun hroute => ⟨refused_of_refreshForm (Or.inl hroute), fun form hrecord hvalid => ?_⟩,
    fun hroute => ⟨refused_of_refreshForm (Or.inr hroute), fun form hrecord hvalid => ?_⟩⟩
  · exact handle_login hroute hflow (LoginForm.ofRequest_eq_ok_iff.2 ⟨hrecord, hvalid⟩)
  · rw [Service.handle, hroute]
    exact withToken_reports hflow (RefreshForm.ofRequest_eq_ok_iff.2 ⟨hrecord, hvalid⟩) Auth.Flow.fails_of_refresh
  · rw [Service.handle, hroute]
    exact withToken_reports hflow (RefreshForm.ofRequest_eq_ok_iff.2 ⟨hrecord, hvalid⟩) Auth.Flow.fails_of_logout

end

namespace Sample

open Auth.Sample (alice users request verify_request)

/-- The right name and password are answered with the outcome of a login, a logout with a text that is no token with the
status for that, and a logout is refused without a body and with one that goes on for too long after the form. -/
theorem handle_form_of_requests :
    let service : Service := ⟨{ flow := some flow }, .initial users⟩
    (∃ o : Auth.LoginOutcome, (service.handle Instant.epoch login).response = some (.json .ok o.json) ∧
        o.user = alice) ∧
      (service.handle Instant.epoch (logout "token")).response =
        some (.json .unauthorized (.object [("error", .string "Unauthorized")])) ∧
      { logout "token" with body := [] }.Refused ∧
      { logout "token" with body := (logout "token").body ++ List.replicate 70000 0x20 }.Refused := by
  intro service
  obtain ⟨s, o, hlogin, huser, -, -⟩ :=
    @Auth.Flow.login_succeeds flow Instant.epoch (.initial users) request alice
      { seconds := 900, nanos := 0 } { seconds := 86400, nanos := 0 } rfl rfl verify_request (by decide) (by decide) rfl
  have hflow : service.components.flow = some flow := rfl
  obtain ⟨hlogins, -, -⟩ := Service.handle_form hflow Instant.epoch login
  obtain ⟨-, -, hlogouts⟩ := Service.handle_form hflow Instant.epoch (logout "token")
  obtain ⟨-, -, hempty⟩ := Service.handle_form hflow Instant.epoch { logout "token" with body := [] }
  obtain ⟨-, -, hlong⟩ := Service.handle_form hflow Instant.epoch
    { logout "token" with body := (logout "token").body ++ List.replicate 70000 0x20 }
  refine ⟨⟨o, ?_, huser⟩, ?_, ?_, ?_⟩
  · have hread : LoginForm.ofRequest login = .ok ⟨"alice", "secret"⟩ := by rfl
    obtain ⟨hrecord, hvalid⟩ := LoginForm.ofRequest_eq_ok_iff.1 hread
    have hreport := (hlogins (by rfl)).2 _ hrecord hvalid
    exact hreport.response_of_ok o (congrArg Prod.snd hlogin)
  · have hreport := (hlogouts (by rfl)).2 ⟨"token"⟩ (by rfl) ⟨'t', by decide, by decide⟩
    exact hreport.response_of_error .notAuthenticated (by rfl)
  · refine (hempty (by rfl)).1 ?_
    rintro ⟨form, hrecord, -⟩
    cases hrecord
  · refine (hlong ((Request.route_congr rfl rfl).trans (logout_route "token"))).1 ?_
    rintro ⟨form, hrecord, -⟩
    refine Request.record_ne_ok_of_bodyLimit_lt RefreshForm.record ?_ form hrecord
    rw [List.length_append, List.length_replicate, Request.bodyLimit]
    omega

end Sample

end Gatehouse.Http
