import Gatehouse.Http.ApiError
import Gatehouse.Http.ContentType
import Gatehouse.Http.Request
import Gatehouse.Json.Record
import Gatehouse.Text.Alphanumeric

/-!
# Forms

What the bodies of requests hold, and what is asked of it before anything else happens. A body is a JSON record under
a content type that says so; an empty body stands for `null`, and a body that is too long is not read.
-/

namespace Gatehouse.Http

/-- How many bytes a body may have at most to be read. -/
def Request.bodyLimit : Nat := 65536

/-- The record in the body of a request. -/
def Request.record (request : Request) (record : Json.Record σ α) : Except ApiError α :=
  let isJson := ((request.header? "content-type").bind Request.visibleText?).any fun t => isJsonType t.toList
  if isJson then
    if bodyLimit < request.body.length then .error (.badRequest "other error: length limit exceeded")
    else
      let body := if request.body.isEmpty then Text.Utf8.ofString "null" else request.body
      (record.readAll body).mapError fun f => .badRequest ("serde json error: " ++ f.text body)
  else .error (.badRequest "the request did not have a valid Content-Type header")

/-! ## Login -/

/-- A name and a password. -/
structure LoginForm where
  username : String
  password : String

namespace LoginForm

/-- A login form that is being read. -/
structure Draft where
  username : Option String := none
  password : Option String := none

/-- Login forms as records. -/
def record : Json.Record Draft LoginForm where
  expected := "struct LoginRequest"
  fields :=
    [.one "username" Draft.username (Json.stringValue "a string") (fun d a => { d with username := some a }),
      .one "password" Draft.password (Json.stringValue "a string") (fun d a => { d with password := some a })]
  empty := {}
  complete d := do
    let username ← Json.required "username" d.username
    let password ← Json.required "password" d.password
    pure { username, password }

/-- Whether a text has at least and at most so many characters. -/
def hasLength (least most : Nat) (s : String) : Bool := least ≤ s.length && s.length ≤ most

/-- What a form is asked to hold: a name of 3 to 40 alphanumeric characters and a password of 6 to 40. -/
def check (form : LoginForm) : Except ApiError Unit :=
  if !(hasLength 3 40 form.username && form.username.toList.all Text.isAlphanumeric) then
    .error (.service (.validation "username must be 3 to 40 alphanumeric characters"))
  else if !hasLength 6 40 form.password then
    .error (.service (.validation "password must be 6 to 40 characters"))
  else .ok ()

/-- The form in a request. -/
def ofRequest (request : Request) : Except ApiError LoginForm := do
  let form ← request.record record
  form.check
  pure form

end LoginForm

/-! ## Refresh tokens -/

/-- A refresh token. -/
structure RefreshForm where
  refreshToken : String

namespace RefreshForm

/-- Refresh forms as records. -/
def record : Json.Record (Option String) RefreshForm where
  expected := "struct RefreshTokenRequest"
  fields := [.one "refresh_token" id (Json.stringValue "a string") (fun _ a => some a)]
  empty := none
  complete d := (Json.required "refresh_token" d).map fun refreshToken => { refreshToken }

/-- The form in a request; its token must not be blank. -/
def ofRequest (request : Request) : Except ApiError RefreshForm := do
  let form ← request.record record
  if (Text.trim form.refreshToken.toList).isEmpty then
    .error (.service (.validation "refresh_token is required"))
  else pure form

end RefreshForm

end Gatehouse.Http
