import Gatehouse.Auth.State
import Gatehouse.Password.Verify

/-!
# Login, refresh and logout

A login issues two tokens: an access token with the user's roles, and a refresh token without roles that a new session
stands behind. The refresh token is honoured as long as its session is there, is not blocked, belongs to its user,
holds its very text and has not expired. Logout blocks the session. An operation either answers its outcome or
fails and leaves both stores as they were.
-/

namespace Gatehouse.Auth

/-- The terms of authentication: its backend and how long its tokens last. -/
structure Flow extends Backend where
  accessLifetime : Duration
  refreshLifetime : Duration

/-- What a login asks with. -/
structure LoginRequest where
  username : String
  password : String
  userAgent : String
  clientIp : String

/-- What a login answers. -/
structure LoginOutcome where
  sessionId : Uuid
  accessToken : String
  accessClaims : Claims
  refreshToken : String
  refreshClaims : Claims
  user : User

/-- What a refresh answers. -/
structure RefreshOutcome where
  accessToken : String
  accessClaims : Claims

namespace Flow

/-- The lifetime of a setting in seconds. -/
def lifetime (name : String) (seconds : Int) : Except ServiceError Duration :=
  match Duration.ofSeconds? seconds with
  | some d => .ok d
  | none => .error (.configuration (name ++ " is out of range: " ++ toString seconds))

/-- The flow whose tokens last for so many seconds. -/
def ofSeconds (backend : Backend) (access refresh : Int) : Except ServiceError Flow :=
  match lifetime "access_token_duration_secs" access with
  | .error e => .error e
  | .ok accessLifetime =>
    (lifetime "refresh_token_duration_secs" refresh).map fun refreshLifetime =>
      { toBackend := backend, accessLifetime, refreshLifetime }

/-- Issues an access token and a refresh token and opens a session for a user whose password has been checked. -/
def openSession (flow : Flow) (now : Instant) (s : State) (request : LoginRequest) (user : User) (roles : List Role) :
    State × Except ServiceError LoginOutcome :=
  match flow.issue now s user.id roles flow.accessLifetime with
  | (s, .error e) => (s, .error (.token e))
  | (s, .ok (accessToken, accessClaims)) =>
    match flow.issue now s user.id [] flow.refreshLifetime with
    | (s, .error e) => (s, .error (.token e))
    | (s, .ok (refreshToken, refreshClaims)) =>
      let new : NewSession :=
        { id := refreshClaims.id, userId := user.id, refreshToken, userAgent := request.userAgent,
          clientIp := request.clientIp, expiresAt := refreshClaims.expireAt }
      match flow.createSession now s new with
      | .error e => (s, .error (.ofStore e))
      | .ok (session, s) =>
        (s, .ok { sessionId := session.id, accessToken, accessClaims, refreshToken, refreshClaims, user })

/-- Checks a name and a password and opens a session. -/
def login (flow : Flow) (now : Instant) (s : State) (request : LoginRequest) :
    State × Except ServiceError LoginOutcome :=
  match flow.findUser s request.username with
  | .error e => (s, .error (.ofStore e))
  | .ok user =>
    match Password.verify request.password user.passwordHash with
    | .error e => (s, .error e)
    | .ok () =>
      match flow.rolesOf s user.id with
      | .error e => (s, .error (.ofStore e))
      | .ok roles => flow.openSession now s request user roles

/-- The claims of a token that is authentic and in force; why one is not is not told. -/
def verify (flow : Flow) (now : Instant) (token : String) : Except ServiceError Claims :=
  (flow.maker.verify now token).mapError fun _ => .notAuthenticated

/-- Whether a session stands behind a refresh token with some claims. -/
def honours (session : Session) (now : Instant) (token : String) (claims : Claims) : Bool :=
  !session.isBlocked && session.userId = claims.userId && session.refreshToken = token && !session.isExpiredAt now

/-- Issues another access token for a refresh token, with the roles that its user has now. -/
def refresh (flow : Flow) (now : Instant) (s : State) (token : String) : State × Except ServiceError RefreshOutcome :=
  match flow.verify now token with
  | .error e => (s, .error e)
  | .ok claims =>
    match flow.getSession s claims.id with
    | .error e => (s, .error (.ofStore e))
    | .ok session =>
      if honours session now token claims then
        match flow.rolesOf s claims.userId with
        | .error e => (s, .error (.ofStore e))
        | .ok roles =>
          match flow.issue now s claims.userId roles flow.accessLifetime with
          | (s, .error e) => (s, .error (.token e))
          | (s, .ok (accessToken, accessClaims)) => (s, .ok { accessToken, accessClaims })
      else (s, .error .notAuthenticated)

/-- Blocks the session of a token; one that is blocked already stays so. -/
def logout (flow : Flow) (now : Instant) (s : State) (token : String) : State × Except ServiceError Unit :=
  match flow.verify now token with
  | .error e => (s, .error e)
  | .ok claims =>
    match flow.setBlocked s claims.id true with
    | .error e => (s, .error (.ofStore e))
    | .ok (_, s) => (s, .ok ())

end Flow

/-! ## Outcomes as JSON -/

/-- The outcome of a login as JSON. -/
def LoginOutcome.json (o : LoginOutcome) : Json.Value :=
  .object
    [("session_id", .string o.sessionId.toString), ("access_token", .string o.accessToken),
      ("access_token_expires_at", .string o.accessClaims.expireAt.rfc3339),
      ("refresh_token", .string o.refreshToken),
      ("refresh_token_expires_at", .string o.refreshClaims.expireAt.rfc3339), ("user", o.user.json)]

/-- The outcome of a refresh as JSON. -/
def RefreshOutcome.json (o : RefreshOutcome) : Json.Value :=
  .object
    [("access_token", .string o.accessToken),
      ("access_token_expires_at", .string o.accessClaims.expireAt.rfc3339)]

end Gatehouse.Auth
