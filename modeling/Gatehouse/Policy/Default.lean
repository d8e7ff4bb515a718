/-!
# The built-in policy

The rules and the model that are in force where no files replace them: administrators may do everything, users may
read, and a request is decided by subject, path and method.
-/

namespace Gatehouse.Policy

/-- The text of the built-in rules. -/
def defaultRulesText : String :=
  "# Permission rules: p, subject-or-role, resource, action[, effect]
# Role groupings:   g, subject, role
p, admin, /api/v1/*, *, allow

p, user, /api/v1/whoami, GET, allow
p, user, /api/v1/teams, GET, allow
p, user, /api/v1/teams, POST, allow
p, user, /api/v1/teams/:id, GET, allow
p, user, /api/v1/teams/:id/members, GET, allow
p, user, /api/v1/players, GET, allow
p, user, /api/v1/players/:id, GET, allow
p, user, /api/v1/players/:id/roles, GET, allow
p, user, /api/v1/games, GET, allow
p, user, /api/v1/games/:id, GET, allow
"

/-- The text of the built-in model. -/
def defaultModelText : String :=
  "[request_definition]
r = sub, obj, act

[policy_definition]
p = sub, obj, act, eft

[role_definition]
g = _, _

[policy_effect]
e = some(where (p.eft == allow))

[matchers]
m = r.sub == p.sub && keyMatch2(r.obj, p.obj) && (r.act == p.act || p.act == \"*\")
"

end Gatehouse.Policy
