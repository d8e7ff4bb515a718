import Gatehouse.Error
import Gatehouse.Json.Value

/-!
# Errors as responses

How a failed request is answered: a status by the kind of the error, and a body that shows the error's text only
when the request itself was at fault. Every other body is fixed by the status.
-/

namespace Gatehouse.Http

/-- What can go wrong with a request. -/
inductive ApiError
  | service (e : ServiceError)
  | store (e : StoreError)
  | core (e : CoreError)
  /-- The body is not what the route reads. -/
  | badRequest (text : String)
  deriving DecidableEq

/-- The status codes that answers have. -/
inductive Status
  | ok
  | badRequest
  | unauthorized
  | forbidden
  | notFound
  | methodNotAllowed
  | internal
  deriving DecidableEq

/-- The number of a status. -/
def Status.code : Status → Nat
  | .ok => 200
  | .badRequest => 400
  | .unauthorized => 401
  | .forbidden => 403
  | .notFound => 404
  | .methodNotAllowed => 405
  | .internal => 500

/-- A response: its status, and content with its type, each empty when there is none. -/
structure Response where
  status : Status
  contentType : String
  body : String
  deriving DecidableEq

/-- The content type of JSON. -/
def jsonType : String := "application/json; charset=utf-8"

/-- A response with JSON content. -/
def Response.json (status : Status) (v : Json.Value) : Response := ⟨status, jsonType, v.text⟩

namespace ApiError

/-- The error in words. -/
def message : ApiError → String
  | .service e => e.message
  | .store e => e.message
  | .core e => e.message
  | .badRequest text => "Invalid request body: " ++ text

/-- The status that an error is answered with. -/
def status : ApiError → Status
  | .badRequest _ | .service (.validation _) | .core (.validation _) => .badRequest
  | .service .notAuthenticated | .service (.token _) => .unauthorized
  | .service (.forbidden _) => .forbidden
  | .service (.notFound _) | .store (.notFound _) => .notFound
  | _ => .internal

/-- The part of an error that the client is told. -/
def publicMessage (e : ApiError) : String :=
  match e.status with
  | .badRequest => e.message
  | .unauthorized => "Unauthorized"
  | .forbidden => "Forbidden"
  | .notFound => "Not found"
  | _ => "Internal server error"

/-- The response to a failed request. -/
def response (e : ApiError) : Response := .json e.status (.object [("error", .string e.publicMessage)])

end ApiError

end Gatehouse.Http
