import Gatehouse.Http.Components
import Gatehouse.Http.Request

/-!
# The guard

Lets a request through when it carries a token that is in force and the policy allows the token's user, or one of the
user's roles, the path and the method. On the way the roles in the token are registered with the policy engine, where
they stay whatever is decided.
-/

namespace Gatehouse.Http

/-- What becomes of a request at the guard. -/
inductive Passage
  | admitted (claims : Claims)
  | refused (e : ServiceError)
  /-- The evaluation of the policy ended without an answer. -/
  | crashed

/-- The guard's decision, the components after it, and how many tokens were verified for it. -/
structure Guarded where
  components : Components
  passage : Passage
  verified : Nat

variable [Pattern.RegexEngine]

/-- The decision of the policy on a request with verified claims, whose roles are registered first. -/
def Components.authorize (c : Components) (engine : Policy.Engine) (claims : Claims) (request : Request) :
    Components × Passage :=
  let subject := claims.userId.toString
  let (engine, registered) := engine.ensureRoles subject claims.roles
  let c := { c with engine := some engine, claims := some claims }
  match registered with
  | .error e => (c, .refused (.policy e))
  | .ok () =>
    match engine.enforce subject request.path request.method with
    | .error (.error e) => (c, .refused (.policy e))
    | .error .crash => (c, .crashed)
    | .ok false => (c, .refused (.forbidden (request.method ++ " " ++ request.path ++ " is not permitted")))
    | .ok true => (c, .admitted claims)

/-- The guard. -/
def Components.guard (c : Components) (now : Instant) (request : Request) : Guarded :=
  match request.credential with
  | .error e => ⟨c, .refused e, 0⟩
  | .ok token =>
    match c.getMaker with
    | .error e => ⟨c, .refused e, 0⟩
    | .ok maker =>
      match maker.verify now token with
      | .error _ => ⟨c, .refused .notAuthenticated, 1⟩
      | .ok claims =>
        match c.getEngine with
        | .error e => ⟨c, .refused e, 1⟩
        | .ok engine =>
          let (c, passage) := c.authorize engine claims request
          ⟨c, passage, 1⟩

end Gatehouse.Http
