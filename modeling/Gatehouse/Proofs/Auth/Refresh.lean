import Mathlib
import Gatehouse.Proofs.Auth.Run
import Gatehouse.Proofs.Password.Hash
import Gatehouse.Proofs.Settings.Lifetime
import Gatehouse.Proofs.Token.RoundTrip

/-!
# When a refresh token is honoured

A refresh token that a login answered is honoured until it expires, unless its identifier is logged out in between, and
then no more. What else happens in between plays no part: other logins and refreshes, logouts of other identifiers,
calls that fail, changes of the users; but the roles of the new access token are those that the user has by then.
-/

namespace Gatehouse.Auth

namespace Flow

variable {flow : Flow} {now : Instant} {s s' : State} {request : LoginRequest} {o : LoginOutcome}

/-! ## Sessions behind refresh tokens -/

/-- The claims of the refresh token of a login are the user's, hold from the start of the second of the login on, and
name no roles. -/
theorem Opens.refreshClaims_eq (h : flow.Opens now s request s' o) :
    o.refreshClaims.id = flow.ids (s.issued + 1) ∧ o.refreshClaims.userId = o.user.id ∧
      o.refreshClaims.notBefore = now.floor ∧ o.refreshClaims.roles = [] := by
  obtain ⟨hid, huser, hroles, hbegin⟩ := TokenMaker.claims_of_issue h.refresh_eq
  exact ⟨hid, huser, hbegin, hroles⟩

/-- The refresh token of a login is authentic with the claims that the login answers. -/
theorem Opens.authentic (h : flow.Opens now s request s' o) (hnow : Instant.epoch ≤ now)
    (hforward : 0 ≤ flow.refreshLifetime.nanoseconds) (hwhole : flow.refreshLifetime.nanoseconds % 1000000000 = 0) :
    flow.maker.Authentic o.refreshToken o.refreshClaims :=
  TokenMaker.authentic_of_issue h.refresh_eq hnow hforward hwhole

/-- The claims of the access token of a login are the user's, hold from the start of the second of the login on, and
name the roles that the user has then. -/
theorem Opens.accessClaims_eq (h : flow.Opens now s request s' o) :
    o.accessClaims.userId = o.user.id ∧ o.accessClaims.notBefore = now.floor ∧
      o.accessClaims.roles = s.users.rolesOf o.user.id := by
  obtain ⟨-, huser, hroles, hbegin⟩ := TokenMaker.claims_of_issue h.access_eq
  exact ⟨huser, hbegin, hroles⟩

/-- The access token of a login verifies from the login until its expiry. -/
theorem Opens.verify_access (h : flow.Opens now s request s' o) (hnow : Instant.epoch ≤ now)
    (hforward : 0 ≤ flow.accessLifetime.nanoseconds) (hwhole : flow.accessLifetime.nanoseconds % 1000000000 = 0)
    {v : Instant} (hv : now ≤ v) (hlive : v < o.accessClaims.expireAt) :
    flow.maker.verify v o.accessToken = .ok o.accessClaims := by
  have hauthentic := TokenMaker.authentic_of_issue h.access_eq hnow hforward hwhole
  obtain ⟨-, hbegin, -⟩ := h.accessClaims_eq
  have hbegun : ¬v < o.accessClaims.notBefore := by
    rw [hbegin]
    exact not_lt.2 ((Instant.floor_le now).trans hv)
  rw [hauthentic.verify v, if_neg (not_le.2 hlive), if_neg hbegun]

/-- After a login its session is found under the identifier of the refresh token. -/
theorem Opens.get?_eq (h : flow.Opens now s request s' o) :
    s'.sessions.get? o.refreshClaims.id = some (SessionStore.opened now (newSession request o)) := by
  obtain ⟨session, hcreate, -⟩ := h.create_eq
  obtain ⟨-, rfl, -⟩ := SessionStore.create_eq_ok_iff.1 hcreate
  exact SessionStore.get?_create_self hcreate

/-- The session of a login stands behind the refresh token as long as it is not blocked and has not expired. -/
theorem honours_opened (request : LoginRequest) (issuedAt : Instant) (blocked : Bool)
    (hid : o.refreshClaims.userId = o.user.id) (hlive : now < o.refreshClaims.expireAt) :
    honours { SessionStore.opened issuedAt (newSession request o) with isBlocked := blocked } now o.refreshToken
      o.refreshClaims = !blocked := by
  have hexpired : ¬o.refreshClaims.expireAt ≤ now := not_le.2 hlive
  simp [honours, SessionStore.opened, newSession, Session.isExpiredAt, hid, hexpired]

/-- The claims of the access token that a refresh answers: for a user, until an expiry, with the roles of the moment. -/
def renewedClaims (flow : Flow) (now : Instant) (s : State) (userId : Uuid) (expireAt : Instant) : Claims :=
  { id := flow.ids s.issued, userId, issuedAt := now.floor, expireAt, notBefore := now.floor,
    audience := flow.maker.audience, issuer := flow.maker.issuer, subject := Claims.subjectText,
    roles := s.users.rolesOf userId }

/-- The access token of these claims is the one that is issued then. -/
theorem issue_renewedClaims {expireAt : Instant} (s : State) (userId : Uuid)
    (hadd : now.floor.add? flow.accessLifetime = some expireAt) :
    flow.maker.issue now (flow.ids s.issued) userId (s.users.rolesOf userId) flow.accessLifetime =
      .ok (flow.maker.sign (flow.renewedClaims now s userId expireAt), flow.renewedClaims now s userId expireAt) :=
  TokenMaker.issue_eq_ok_iff.2 ⟨rfl, expireAt, hadd, rfl⟩

/-- That access token verifies from the refresh until its expiry. -/
theorem verify_renewedClaims {expireAt v : Instant} {userId : Uuid}
    (hadd : now.floor.add? flow.accessLifetime = some expireAt) (hnow : Instant.epoch ≤ now)
    (hforward : 0 ≤ flow.accessLifetime.nanoseconds) (hwhole : flow.accessLifetime.nanoseconds % 1000000000 = 0)
    (hv : now ≤ v) (hlive : v < expireAt) :
    flow.maker.verify v (flow.maker.sign (flow.renewedClaims now s userId expireAt)) =
      .ok (flow.renewedClaims now s userId expireAt) := by
  have hauthentic := TokenMaker.authentic_of_issue (issue_renewedClaims s userId hadd) hnow hforward hwhole
  have hunexpired : ¬(flow.renewedClaims now s userId expireAt).expireAt ≤ v := not_le.2 hlive
  have hbegun : ¬v < (flow.renewedClaims now s userId expireAt).notBefore :=
    not_lt.2 ((Instant.floor_le now).trans hv)
  rw [hauthentic.verify v, if_neg hunexpired, if_neg hbegun]

/-- A refresh with the token of a login answers new claims if the token has not expired and its session is not blocked,
and otherwise that the caller is not authenticated. -/
theorem refresh_of_opened {loginTime expireAt : Instant} {blocked : Bool} (hfaults : flow.faults = {})
    (hauthentic : flow.maker.Authentic o.refreshToken o.refreshClaims) (hid : o.refreshClaims.userId = o.user.id)
    (hbegun : o.refreshClaims.notBefore ≤ now)
    (hget : s.sessions.get? o.refreshClaims.id =
      some { SessionStore.opened loginTime (newSession request o) with isBlocked := blocked })
    (hadd : now.floor.add? flow.accessLifetime = some expireAt) :
    (flow.refresh now s o.refreshToken).2 =
      if now < o.refreshClaims.expireAt ∧ blocked = false then
        .ok
          { accessToken := flow.maker.sign (flow.renewedClaims now s o.user.id expireAt)
            accessClaims := flow.renewedClaims now s o.user.id expireAt }
      else .error .notAuthenticated := by
  have hverify := hauthentic.verify now
  rw [if_neg (not_lt.2 hbegun)] at hverify
  have hsession : flow.getSession s o.refreshClaims.id =
      .ok { SessionStore.opened loginTime (newSession request o) with isBlocked := blocked } := by
    refine faultOr_eq_ok_iff.2 ⟨by rw [hfaults], ?_⟩
    unfold SessionStore.get
    rw [hget]
  by_cases hlive : now < o.refreshClaims.expireAt
  · rw [if_neg (not_le.2 hlive)] at hverify
    have hhonours := honours_opened request loginTime blocked hid hlive
    cases blocked with
    | true =>
      rw [refresh_of_not_honoured hverify hsession hhonours, if_neg (by simp)]
    | false =>
      have hissued := Backend.issue_eq_ok_iff.2
        ⟨by rw [hfaults], issue_renewedClaims s o.refreshClaims.userId hadd, rfl⟩
      rw [refresh_of_honoured hverify hsession hhonours (by rw [hfaults]) hissued, if_pos ⟨hlive, rfl⟩, hid]
  · rw [if_pos (not_lt.1 hlive)] at hverify
    rw [refresh_of_verify_error hverify, if_neg fun h => hlive h.1]

/-! ## The life of a refresh token -/

/-- Let a login succeed in a run from an empty table of sessions, by checked settings over stores that do not fail, and
let the clock not go back from then on. After any further events its refresh token is refreshed exactly until its expiry
and only if its identifier was not logged out since; otherwise the answer is that the caller is not authenticated. The
new access token verifies from now until its expiry, for the user of the login with the roles that this user has now. -/
theorem refresh_eq_ok_iff_of_login {settings : Settings} {backend : Backend} {users : UserStore} {loginTime : Instant}
    (before between : List (Instant × Event)) (now : Instant)
    (hsettings : settings.validate = .ok ()) (hflow : settings.token.flow backend = .ok flow)
    (hfaults : backend.faults = {})
    (hlogin : flow.login loginTime (flow.run (.initial users) before) request = (s, .ok o))
    (hepoch : Instant.epoch ≤ loginTime) (hclock : loginTime ≤ now)
    (hrange : (now.floor.add? flow.accessLifetime).isSome) :
    (flow.maker.Authentic o.refreshToken o.refreshClaims ∧ o.refreshClaims.userId = o.user.id) ∧
      ((∃ r, (flow.refresh now (flow.run s between) o.refreshToken).2 = .ok r) ↔
        now < o.refreshClaims.expireAt ∧ ¬flow.LogsOut s between o.refreshClaims.id) ∧
      (¬(now < o.refreshClaims.expireAt ∧ ¬flow.LogsOut s between o.refreshClaims.id) →
        (flow.refresh now (flow.run s between) o.refreshToken).2 = .error .notAuthenticated) ∧
      ∀ r, (flow.refresh now (flow.run s between) o.refreshToken).2 = .ok r →
        now < r.accessClaims.expireAt ∧ r.accessClaims.userId = o.user.id ∧
          r.accessClaims.roles = (flow.run s between).users.rolesOf o.user.id ∧
          ∀ v, now ≤ v → v < r.accessClaims.expireAt → flow.maker.verify v r.accessToken = .ok r.accessClaims := by
  obtain ⟨hbackend, ⟨haccess, haccessWhole⟩, hforward, hwhole⟩ := Settings.flow_lifetimes hsettings hflow
  rw [← hbackend] at hfaults
  have hopens := opens_of_login hlogin
  obtain ⟨-, hid, hbegin, -⟩ := hopens.refreshClaims_eq
  have hauthentic := hopens.authentic hepoch (by omega) hwhole
  have hbegun : o.refreshClaims.notBefore ≤ now := by
    rw [hbegin]
    exact (Instant.floor_le _).trans hclock
  obtain ⟨expireAt, hadd⟩ := Option.isSome_iff_exists.1 hrange
  -- What has become of the session of the login decides; it is blocked exactly when its identifier was logged out.
  obtain ⟨blocked, hget, hblocked⟩ := @get?_run flow s o.refreshClaims.id _ hopens.get?_eq between
  have hkept : blocked = false ↔ ¬flow.LogsOut s between o.refreshClaims.id := by
    rw [← Bool.not_eq_true, hblocked]
    simp [SessionStore.opened]
  rw [refresh_of_opened hfaults hauthentic hid hbegun hget hadd, ← hkept]
  refine ⟨⟨hauthentic, hid⟩, ?_, fun hnot => if_neg hnot, ?_⟩
  · constructor
    · rintro ⟨r, hr⟩
      by_contra hnot
      rw [if_neg hnot] at hr
      cases hr
    · intro h
      exact ⟨_, if_pos h⟩
  · intro r hr
    split_ifs at hr with h
    obtain rfl := Except.ok.inj hr
    refine ⟨Instant.lt_of_add? hadd haccess, rfl, rfl, ?_⟩
    intro v hv hv'
    exact verify_renewedClaims hadd (hepoch.trans hclock) (by omega) haccessWhole hv hv'

/-- A refresh after the user of the login became an administrator answers an administrator's token. -/
theorem refresh_after_setRoles_of_login :
    let settings : Settings :=
      { server := ⟨"localhost", 8080⟩, logging := ⟨"info"⟩, policy := ⟨"", ""⟩, users := []
        token := ⟨"0123456789abcdef0123456789abcdef", 900, 86400, "gate", "players"⟩ }
    let backend : Backend :=
      { maker := ⟨List.replicate 32 0x2A, "gate", "players", rfl⟩, ids := fun _ => .nil, faults := {} }
    let flow : Flow :=
      { backend with
        accessLifetime := { nanoseconds := 900000000000 }, refreshLifetime := { nanoseconds := 86400000000000 } }
    let alice : User := ⟨.nil, "alice", Password.hashText (List.replicate 16 0x2A) "secret", "", "", Instant.epoch⟩
    let users : UserStore := ⟨[alice], []⟩
    settings.token.flow backend = .ok flow ∧
      ∃ s o r, flow.login Instant.epoch (flow.run (.initial users) []) ⟨"alice", "secret", "", ""⟩ = (s, .ok o) ∧
        (flow.refresh Instant.epoch (flow.run s [(Instant.epoch, .users (.setRoles .nil [Role.admin]))])
          o.refreshToken).2 = .ok r ∧ r.accessClaims.roles = [Role.admin] := by
  intro settings backend flow alice users
  have hflow : settings.token.flow backend = .ok flow := rfl
  have hpassword := @Password.verify_hashText (List.replicate 16 0x2A) (by decide) (by decide) "secret"
  obtain ⟨s, o, hlogin, huser, -, hexpire⟩ :=
    @login_succeeds flow Instant.epoch (.initial users) ⟨"alice", "secret", "", ""⟩ alice { seconds := 900, nanos := 0 }
      { seconds := 86400, nanos := 0 } rfl rfl hpassword (by decide) (by decide) rfl
  obtain ⟨-, hiff, -, hroles⟩ :=
    refresh_eq_ok_iff_of_login [] [(Instant.epoch, .users (.setRoles .nil [Role.admin]))] Instant.epoch
      (by decide) hflow rfl hlogin (by decide) (by decide) (by decide)
  have hkept : ¬flow.LogsOut s [(Instant.epoch, .users (.setRoles .nil [Role.admin]))] o.refreshClaims.id := by
    rw [logsOut_cons_iff]
    rintro (⟨token, c, h, -⟩ | h)
    · cases h
    · exact not_logsOut_nil h
  obtain ⟨r, hr⟩ := hiff.2 ⟨by rw [hexpire]; decide, hkept⟩
  refine ⟨hflow, s, o, r, hlogin, hr, ?_⟩
  rw [(hroles r hr).2.2.1, huser]
  rfl

end Flow

end Gatehouse.Auth
