import Gatehouse.Http.Form
import Gatehouse.Http.Guard

/-!
# The service

The routes and what they do: a health check, login, renewal and logout over the flow, and the identity of a caller,
which is behind the guard. Handling a request changes the stores and the engine and answers a response.
-/

namespace Gatehouse.Http

/-! ## Routes -/

/-- What the service offers. -/
inductive Route
  | health
  | login
  | renew
  | logout
  | whoami
  deriving DecidableEq

/-- The method and the path of a route. -/
def Route.address : Route → String × List String
  | .health => ("GET", ["app", "healthcheck"])
  | .login => ("POST", ["api", "v1", "auth", "login"])
  | .renew => ("POST", ["api", "v1", "auth", "renew"])
  | .logout => ("POST", ["api", "v1", "auth", "logout"])
  | .whoami => ("GET", ["api", "v1", "whoami"])

/-- Every route. -/
def Route.all : List Route := [.health, .login, .renew, .logout, .whoami]

/-- The route of a request, or the status that says why there is none: on the way to a route, or on it, the method is
not allowed; elsewhere nothing is found. -/
def Request.route (request : Request) : Except Status Route :=
  match Route.all.find? fun r => r.address = (request.method, request.segments) with
  | some r => .ok r
  | none => .error (if Route.all.any fun r => request.segments.isPrefixOf r.address.2 then .methodNotAllowed else .notFound)

/-! ## Handling -/

/-- The service: its components, and the state of authentication. -/
structure Service where
  components : Components
  auth : Auth.State

/-- A handled request. -/
structure Handled where
  service : Service
  /-- There is no response when the evaluation of the policy crashed. -/
  response : Option Response
  /-- How many tokens were verified. -/
  verified : Nat

/-- An answer with no content. -/
def Response.bare (status : Status) : Response := ⟨status, "", ""⟩

namespace Service

variable [Pattern.RegexEngine]

/-- Handles a login. -/
def login (service : Service) (now : Instant) (request : Request) : Handled :=
  let refused (e : ApiError) : Handled := ⟨service, some e.response, 0⟩
  match LoginForm.ofRequest request with
  | .error e => refused e
  | .ok form =>
    match service.components.getFlow with
    | .error e => refused (.service e)
    | .ok flow =>
      let (auth, outcome) := flow.login now service.auth
        { username := form.username, password := form.password, userAgent := request.userAgent,
          clientIp := request.client.getD "" }
      let response := match outcome with
        | .ok o => Response.json .ok o.json
        | .error e => (ApiError.service e).response
      ⟨{ service with auth }, some response, 0⟩

/-- Handles an operation on a refresh token, with the response to its outcome. -/
def withToken (service : Service) (request : Request)
    (operation : Auth.Flow → Auth.State → String → Auth.State × Except ServiceError α) (answer : α → Response) :
    Handled :=
  let refused (e : ApiError) : Handled := ⟨service, some e.response, 0⟩
  match RefreshForm.ofRequest request with
  | .error e => refused e
  | .ok form =>
    match service.components.getFlow with
    | .error e => refused (.service e)
    | .ok flow =>
      let (auth, outcome) := operation flow service.auth form.refreshToken
      let response := match outcome with
        | .ok a => answer a
        | .error e => (ApiError.service e).response
      ⟨{ service with auth }, some response, 1⟩

/-- The identity that claims give. -/
def identity (claims : Claims) : Json.Value :=
  .object
    [("user_id", .string claims.userId.toString), ("roles", .list (claims.roles.map fun r => .string r.name)),
      ("expires_at", .string claims.expireAt.rfc3339)]

/-- Handles a request for the caller's identity, which has to pass the guard. -/
def whoami (service : Service) (now : Instant) (request : Request) : Handled :=
  let guarded := service.components.guard now request
  let response := match guarded.passage with
    | .refused e => some (ApiError.service e).response
    | .crashed => none
    | .admitted claims => some (Response.json .ok (identity claims))
  ⟨{ service with components := { guarded.components with claims := none } }, response, guarded.verified⟩

/-- Handles a request. -/
def handle (service : Service) (now : Instant) (request : Request) : Handled :=
  match request.route with
  | .error status => ⟨service, some (.bare status), 0⟩
  | .ok .health => ⟨service, some ⟨.ok, "text/plain; charset=utf-8", "OK"⟩, 0⟩
  | .ok .login => service.login now request
  | .ok .renew =>
    service.withToken request (fun flow s token => flow.refresh now s token) fun o => Response.json .ok o.json
  | .ok .logout =>
    service.withToken request (fun flow s token => flow.logout now s token) fun _ => .bare .ok
  | .ok .whoami => service.whoami now request

end Service

end Gatehouse.Http
