import Gatehouse.Error
import Gatehouse.Text.Blank

/-!
# Bearer credentials

The value of an authorization header holds a credential when its first word is the scheme, in letters of either case,
and a second word follows; that word is the credential, and what comes after it does not matter.
-/

namespace Gatehouse.Http

/-- The authorization scheme. -/
def bearerScheme : String := "bearer"

/-- The credential in an authorization header. -/
def bearerToken (header : Option String) : Except ServiceError String :=
  match header with
  | none => .error .notAuthenticated
  | some value =>
    match Text.words value.toList with
    | scheme :: token :: _ =>
      if scheme.map Text.lowerAscii = bearerScheme.toList then .ok (String.ofList token) else .error .notAuthenticated
    | _ => .error .notAuthenticated

end Gatehouse.Http
