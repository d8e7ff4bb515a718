/-!
# Roles

A role is a name that a user holds, a token carries and the policy groups subjects by. Roles are compared and
ordered as texts, by code point, which is also the order of their bytes.
-/

namespace Gatehouse

/-- A named role. -/
structure Role where
  name : String
  deriving DecidableEq, Inhabited

namespace Role

/-- The role that every registered player holds. -/
def user : Role := ⟨"user"⟩

/-- The role that may do everything. -/
def admin : Role := ⟨"admin"⟩

/-- The role's place among others: by name. -/
def le (a b : Role) : Bool := decide (a.name ≤ b.name)

/-- Adds a role to an ascending list without repetitions, which stays one. -/
def insertSorted (role : Role) : List Role → List Role
  | [] => [role]
  | other :: rest =>
    if role = other then other :: rest
    else if role.le other then role :: other :: rest
    else other :: insertSorted role rest

/-- The roles of a list in ascending order, each once. -/
def sorted (roles : List Role) : List Role := roles.foldr insertSorted []

end Role

end Gatehouse
