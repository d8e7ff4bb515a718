import Gatehouse.Auth.Flow
import Gatehouse.Policy.Engine

/-!
# Components

What a request finds when it is handled. A component that was never put there is a fault of the set-up, but that
nobody has been identified means that the request is not authenticated.
-/

namespace Gatehouse.Http

/-- The components at hand. -/
structure Components where
  maker : Option TokenMaker := none
  engine : Option Policy.Engine := none
  flow : Option Auth.Flow := none
  /-- The claims of the caller, once they are verified. -/
  claims : Option Claims := none

namespace Components

/-- A component, or the error that it is missing. -/
def get (what : String) : Option α → Except ServiceError α
  | some a => .ok a
  | none => .error (.invariant (what ++ " not found in depot"))

/-- The token maker. -/
def getMaker (c : Components) : Except ServiceError TokenMaker := get "Token maker" c.maker

/-- The policy engine. -/
def getEngine (c : Components) : Except ServiceError Policy.Engine := get "Policy engine" c.engine

/-- The flow. -/
def getFlow (c : Components) : Except ServiceError Auth.Flow := get "Auth flow" c.flow

/-- The claims of the caller. -/
def getClaims (c : Components) : Except ServiceError Claims :=
  match c.claims with
  | some claims => .ok claims
  | none => .error .notAuthenticated

end Components

end Gatehouse.Http
