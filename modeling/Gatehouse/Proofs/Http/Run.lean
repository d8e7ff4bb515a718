import Mathlib
import Gatehouse.Http.Service
import Gatehouse.Proofs.Auth.Run
import Gatehouse.Proofs.Encoding.Hex
import Gatehouse.Proofs.Policy.Groupings

/-!
# Runs of requests

A run is a list of requests and changes of the users, each at its time. Through every run the token maker and the flow
of a service stay what they are, and its policy engine is changed by the guard alone: it is the first engine with the
roles of the tokens that the guard has verified (`components_run`, `mem_rolesFor_engineAfter`).
-/

namespace Gatehouse

namespace Http

/-- A request, or a change of the users. -/
inductive Event
  | request (request : Request)
  | users (change : UserStore.Change)

/-- The claims that the guard finds in the token of a request, if the guard is on its way and accepts the token. -/
def guardedClaims (maker : TokenMaker) (now : Instant) (request : Request) : Option Claims :=
  match request.route with
  | .ok .whoami =>
    match request.credential with
    | .ok token => (maker.verify now token).toOption
    | .error _ => none
  | _ => none

/-- An engine after the roles of some claims were registered for their user. -/
def registered (engine : Policy.Engine) (claims : Claims) : Policy.Engine :=
  (engine.ensureRoles claims.userId.toString claims.roles).1

/-- An engine after a run: the roles of all claims that the guard has found are registered, in turn. -/
def engineAfter (maker : TokenMaker) (engine : Policy.Engine) : List (Instant × Event) → Policy.Engine
  | [] => engine
  | (now, .request request) :: rest =>
    match guardedClaims maker now request with
    | some claims => engineAfter maker (registered engine claims) rest
    | none => engineAfter maker engine rest
  | (_, .users _) :: rest => engineAfter maker engine rest

/-- The engine after a run goes on from the one before it. -/
theorem engineAfter_append (maker : TokenMaker) (engine : Policy.Engine) (before after : List (Instant × Event)) :
    engineAfter maker engine (before ++ after) = engineAfter maker (engineAfter maker engine before) after := by
  induction before generalizing engine with
  | nil => rfl
  | cons e before ih =>
    obtain ⟨now, request | change⟩ := e
    · rw [List.cons_append, engineAfter, engineAfter]
      cases guardedClaims maker now request with
      | none => exact ih engine
      | some claims => exact ih (registered engine claims)
    · exact ih engine

/-- A run changes neither the model nor the rules of an engine. -/
theorem engineAfter_model_rules (maker : TokenMaker) (engine : Policy.Engine) (events : List (Instant × Event)) :
    (engineAfter maker engine events).model = engine.model ∧
      (engineAfter maker engine events).rules = engine.rules := by
  induction events generalizing engine with
  | nil => exact ⟨rfl, rfl⟩
  | cons e events ih =>
    obtain ⟨now, request | change⟩ := e
    · rw [engineAfter]
      cases guardedClaims maker now request with
      | none => exact ih engine
      | some claims =>
        obtain ⟨hmodel, hrules⟩ := engine.ensureRoles_model_rules claims.userId.toString claims.roles
        exact ⟨(ih _).1.trans hmodel, (ih _).2.trans hrules⟩
    · exact ih engine

/-- After the roles of some claims were registered, a user has the roles from before and, if the claims are for this
user and the model has groupings, those of the claims. -/
theorem mem_rolesFor_registered {engine : Policy.Engine} {claims : Claims} {user : Uuid} {role : Role} :
    role ∈ (registered engine claims).rolesFor user.toString ↔
      role ∈ engine.rolesFor user.toString ∨
        Policy.Engine.groupingFields engine.model ≠ none ∧ claims.userId = user ∧ role ∈ claims.roles := by
  have hne := Uuid.toString_ne_empty user
  rw [Policy.Engine.mem_rolesFor hne, Policy.Engine.mem_rolesFor hne, registered,
    Policy.Engine.mem_groupings_ensureRoles, Uuid.toString_injective.eq_iff, eq_comm (a := user)]

/-- What the guard finds in a run it finds in the first request or in the rest of the run. -/
theorem exists_guardedClaims_cons_iff {maker : TokenMaker} {now : Instant} {request : Request}
    {events : List (Instant × Event)} {p : Claims → Prop} :
    (∃ t r claims, (t, .request r) ∈ (now, .request request) :: events ∧ guardedClaims maker t r = some claims ∧
      p claims) ↔
      (∃ claims, guardedClaims maker now request = some claims ∧ p claims) ∨
        ∃ t r claims, (t, .request r) ∈ events ∧ guardedClaims maker t r = some claims ∧ p claims := by
  simp only [List.mem_cons, Prod.mk.injEq, Event.request.injEq]
  constructor
  · rintro ⟨t, r, claims, ⟨rfl, rfl⟩ | hmem, hclaims, hp⟩
    · exact Or.inl ⟨claims, hclaims, hp⟩
    · exact Or.inr ⟨t, r, claims, hmem, hclaims, hp⟩
  · rintro (⟨claims, hclaims, hp⟩ | ⟨t, r, claims, hmem, hclaims, hp⟩)
    · exact ⟨now, request, claims, Or.inl ⟨rfl, rfl⟩, hclaims, hp⟩
    · exact ⟨t, r, claims, Or.inr hmem, hclaims, hp⟩

/-- A user has the roles from before a run and, if the model has groupings, those in the tokens for this user that the
guard has verified in the run. -/
theorem mem_rolesFor_engineAfter {maker : TokenMaker} {engine : Policy.Engine} {events : List (Instant × Event)}
    {user : Uuid} {role : Role} :
    role ∈ (engineAfter maker engine events).rolesFor user.toString ↔
      role ∈ engine.rolesFor user.toString ∨ Policy.Engine.groupingFields engine.model ≠ none ∧
        ∃ now request claims, (now, .request request) ∈ events ∧ guardedClaims maker now request = some claims ∧
          claims.userId = user ∧ role ∈ claims.roles := by
  induction events generalizing engine with
  | nil => simp [engineAfter]
  | cons e events ih =>
    obtain ⟨now, request | change⟩ := e
    · rw [engineAfter, exists_guardedClaims_cons_iff]
      cases guardedClaims maker now request with
      | none =>
        rw [ih]
        simp
      | some claims =>
        have hmodel : (registered engine claims).model = engine.model := (engine.ensureRoles_model_rules _ _).1
        rw [ih, mem_rolesFor_registered, hmodel, or_assoc, ← and_or_left]
        simp
    · rw [engineAfter, ih]
      simp

/-! ## Login, renewal and logout -/

/-- A login changes no component. -/
theorem components_login (service : Service) (now : Instant) (request : Request) :
    (service.login now request).service.components = service.components := by
  unfold Service.login
  dsimp only
  split
  · rfl
  · split <;> rfl

/-- A renewal or a logout changes no component. -/
theorem components_withToken {α : Type} (service : Service) (request : Request)
    (operation : Auth.Flow → Auth.State → String → Auth.State × Except ServiceError α) (answer : α → Response) :
    (service.withToken request operation answer).service.components = service.components := by
  unfold Service.withToken
  dsimp only
  split
  · rfl
  · split <;> rfl

namespace Service

variable [Pattern.RegexEngine]

/-- The service after an event. -/
def step (service : Service) (now : Instant) : Event → Service
  | .request request => (service.handle now request).service
  | .users change => { service with auth := { service.auth with users := service.auth.users.apply now change } }

/-- The service after a run. -/
def run (service : Service) : List (Instant × Event) → Service
  | [] => service
  | (now, event) :: rest => run (service.step now event) rest

/-- A run goes on where the run before it ended. -/
theorem run_append (service : Service) (before after : List (Instant × Event)) :
    service.run (before ++ after) = (service.run before).run after := by
  induction before generalizing service with
  | nil => rfl
  | cons e before ih =>
    obtain ⟨now, event⟩ := e
    exact ih (service.step now event)

end Service

/-! ## The guard -/

variable [Pattern.RegexEngine]

/-- The guard's decision leaves the components as they are, but for the roles that are registered and the caller. -/
theorem authorize_components (c : Components) (engine : Policy.Engine) (claims : Claims) (request : Request) :
    (c.authorize engine claims request).1 =
      { c with engine := some (registered engine claims), claims := some claims } := by
  unfold Components.authorize
  dsimp only
  split
  · rfl
  · split <;> rfl

/-- The components of a service: a maker, an engine and a flow, and nobody is identified between requests. -/
def Components.of (maker : TokenMaker) (engine : Policy.Engine) (flow : Auth.Flow) : Components :=
  { maker := some maker, engine := some engine, flow := some flow }

/-- A request without a credential is refused, and so is one whose token does not verify; the engine is not asked. -/
theorem guard_of_not_verified {maker : TokenMaker} (engine : Policy.Engine) (flow : Auth.Flow) {now : Instant}
    {request : Request} (h : ∀ token, request.credential = .ok token → ∀ claims, maker.verify now token ≠ .ok claims) :
    ((Components.of maker engine flow).guard now request).components = Components.of maker engine flow ∧
      ∃ e, ((Components.of maker engine flow).guard now request).passage = .refused e := by
  unfold Components.guard
  cases hcredential : request.credential with
  | error e => exact ⟨rfl, e, rfl⟩
  | ok token =>
    cases hverify : maker.verify now token with
    | error e =>
      simp only [Components.of, Components.getMaker, Components.get, hverify]
      exact ⟨trivial, _, rfl⟩
    | ok claims => exact absurd hverify (h token hcredential claims)

/-- A request whose token verifies is decided by the policy, on the claims of the token. -/
theorem guard_of_verified {maker : TokenMaker} {engine : Policy.Engine} {flow : Auth.Flow} {now : Instant}
    {request : Request} {token : String} {claims : Claims} (hcredential : request.credential = .ok token)
    (hverify : maker.verify now token = .ok claims) :
    (Components.of maker engine flow).guard now request =
      ⟨((Components.of maker engine flow).authorize engine claims request).1,
        ((Components.of maker engine flow).authorize engine claims request).2, 1⟩ := by
  unfold Components.guard
  simp only [hcredential, Components.getMaker, Components.getEngine, Components.of, Components.get, hverify]

/-! ## Components through a run -/

variable {maker : TokenMaker} {engine : Policy.Engine} {flow : Auth.Flow} {service : Service}

/-- A request to the guarded route registers the roles of its token, if the token verifies. -/
theorem components_whoami (h : service.components = .of maker engine flow) {now : Instant} {request : Request}
    (hroute : request.route = .ok .whoami) :
    (service.whoami now request).service.components =
      .of maker (match guardedClaims maker now request with | some c => registered engine c | none => engine) flow := by
  unfold Service.whoami guardedClaims
  rw [h, hroute]
  dsimp only
  cases hcredential : request.credential with
  | error e =>
    rw [(guard_of_not_verified _ _ fun token ht => by rw [hcredential] at ht; cases ht).1]
    rfl
  | ok token =>
    cases hverify : maker.verify now token with
    | error e =>
      rw [(guard_of_not_verified _ _ fun token' ht claims => ?_).1]
      · dsimp only
        rw [hverify]
        rfl
      · rw [hcredential] at ht
        obtain rfl := Except.ok.inj ht
        rw [hverify]
        intro hf
        cases hf
    | ok claims =>
      rw [guard_of_verified hcredential hverify, authorize_components]
      dsimp only
      rw [hverify]
      rfl

/-- An event changes no component but the engine, and the engine only by the roles of a token that the guard
verifies. -/
theorem components_step (h : service.components = .of maker engine flow) (now : Instant) (event : Event) :
    (service.step now event).components = .of maker (engineAfter maker engine [(now, event)]) flow := by
  cases event with
  | users change => exact h
  | request request =>
    have hone : engineAfter maker engine [(now, .request request)] =
        match guardedClaims maker now request with | some c => registered engine c | none => engine := by
      unfold engineAfter
      cases guardedClaims maker now request <;> rfl
    rw [hone]
    change (service.handle now request).service.components = _
    unfold Service.handle
    cases hroute : request.route with
    | error status =>
      simp only [guardedClaims, hroute]
      exact h
    | ok route =>
      cases route with
      | whoami => exact components_whoami h hroute
      | health =>
        simp only [guardedClaims, hroute]
        exact h
      | login =>
        simp only [guardedClaims, hroute]
        rw [components_login, h]
      | renew =>
        simp only [guardedClaims, hroute]
        rw [components_withToken, h]
      | logout =>
        simp only [guardedClaims, hroute]
        rw [components_withToken, h]

/-- Through every run the maker and the flow stay, and the engine is the first one with the roles of the tokens that the
guard has verified. -/
theorem components_run (h : service.components = .of maker engine flow) (events : List (Instant × Event)) :
    (service.run events).components = .of maker (engineAfter maker engine events) flow := by
  induction events generalizing service engine with
  | nil => exact h
  | cons e events ih =>
    obtain ⟨now, event⟩ := e
    have hnext := ih (components_step h now event)
    rw [← engineAfter_append, List.singleton_append] at hnext
    exact hnext

end Http

end Gatehouse
