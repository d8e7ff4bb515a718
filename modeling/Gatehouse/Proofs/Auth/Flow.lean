import Mathlib
import Gatehouse.Auth.Flow
import Gatehouse.Proofs.Outcome
import Gatehouse.Proofs.Session.Store
import Gatehouse.Proofs.Token.RoundTrip

/-!
# What login, refresh and logout do

Each operation is described by what its success comes from and by what it leaves behind: a login that succeeds adds one
session (`Flow.Opens`), a logout that succeeds blocks the session of its token (`Flow.Blocks`), and nothing else changes
a store. The count of tokens asked for is all that a failure may change.
-/

namespace Gatehouse.Auth

open Outcome

/-- A call succeeds exactly when there is no fault for it and its outcome is a success. -/
theorem faultOr_eq_ok_iff {ε α : Type} {fault : Option ε} {outcome : Except ε α} {a : α} :
    faultOr fault outcome = .ok a ↔ fault = none ∧ outcome = .ok a := by
  cases fault <;> simp [faultOr]

namespace Backend

variable {b : Backend} {now : Instant} {s s' : State}

/-- A token is issued under the next identifier, which is counted. -/
theorem issue_eq_ok_iff {userId : Uuid} {roles : List Role} {lifetime : Duration} {issued : String × Claims} :
    b.issue now s userId roles lifetime = (s', .ok issued) ↔
      b.faults.issue s.issued = none ∧ b.maker.issue now (b.ids s.issued) userId roles lifetime = .ok issued ∧
        s' = { s with issued := s.issued + 1 } := by
  rw [issue, Prod.mk.injEq, faultOr_eq_ok_iff, and_comm, and_assoc]
  exact and_congr_right fun _ => and_congr_right fun _ => eq_comm

/-- A token that is asked for is counted, whether it is issued or not, and nothing else changes. -/
theorem state_of_issue {userId : Uuid} {roles : List Role} {lifetime : Duration}
    {outcome : Except TokenError (String × Claims)} (h : b.issue now s userId roles lifetime = (s', outcome)) :
    s' = { s with issued := s.issued + 1 } :=
  (congrArg Prod.fst h).symm

/-- A session is added in the store alone. -/
theorem createSession_eq_ok_iff {new : NewSession} {session : Session} :
    b.createSession now s new = .ok (session, s') ↔
      b.faults.createSession = none ∧
        ∃ sessions, s.sessions.create now new = .ok (session, sessions) ∧ s' = { s with sessions } := by
  rw [createSession, faultOr_eq_ok_iff, map_eq_ok_iff]
  simp only [Prod.exists, Prod.mk.injEq]
  refine and_congr_right fun _ => ⟨?_, ?_⟩
  · rintro ⟨_, sessions, h, rfl, rfl⟩
    exact ⟨sessions, h, rfl⟩
  · rintro ⟨sessions, h, rfl⟩
    exact ⟨session, sessions, h, rfl, rfl⟩

/-- The mark of a session is set in the store alone. -/
theorem setBlocked_eq_ok_iff {id : Uuid} {blocked : Bool} {session : Session} :
    b.setBlocked s id blocked = .ok (session, s') ↔
      b.faults.updateSession = none ∧
        ∃ sessions, s.sessions.setBlocked id blocked = .ok (session, sessions) ∧ s' = { s with sessions } := by
  rw [setBlocked, faultOr_eq_ok_iff, map_eq_ok_iff]
  simp only [Prod.exists, Prod.mk.injEq]
  refine and_congr_right fun _ => ⟨?_, ?_⟩
  · rintro ⟨_, sessions, h, rfl, rfl⟩
    exact ⟨sessions, h, rfl⟩
  · rintro ⟨sessions, h, rfl⟩
    exact ⟨session, sessions, h, rfl, rfl⟩

end Backend

namespace Flow

variable {flow : Flow} {now : Instant} {s s' : State} {request : LoginRequest} {token : String}

/-! ## Login -/

/-- The session to enter for a login. -/
def newSession (request : LoginRequest) (o : LoginOutcome) : NewSession :=
  { id := o.refreshClaims.id, userId := o.user.id, refreshToken := o.refreshToken, userAgent := request.userAgent,
    clientIp := request.clientIp, expiresAt := o.refreshClaims.expireAt }

/-- What a login that succeeds comes from, and what it leaves behind. -/
structure Opens (flow : Flow) (now : Instant) (s : State) (request : LoginRequest) (s' : State) (o : LoginOutcome) :
    Prop where
  find_eq : s.users.find request.username = .ok o.user
  password_ok : Password.verify request.password o.user.passwordHash = .ok ()
  /-- The access token is issued first, with the roles of the user. -/
  access_eq : flow.maker.issue now (flow.ids s.issued) o.user.id (s.users.rolesOf o.user.id) flow.accessLifetime =
    .ok (o.accessToken, o.accessClaims)
  /-- The refresh token is issued next, without roles. -/
  refresh_eq : flow.maker.issue now (flow.ids (s.issued + 1)) o.user.id [] flow.refreshLifetime =
    .ok (o.refreshToken, o.refreshClaims)
  /-- A session stands behind the refresh token. -/
  create_eq : ∃ session, s.sessions.create now (newSession request o) = .ok (session, s'.sessions) ∧
    o.sessionId = session.id
  users_eq : s'.users = s.users
  issued_eq : s'.issued = s.issued + 2

/-- A login that succeeds opens a session. -/
theorem opens_of_login {o : LoginOutcome} (h : flow.login now s request = (s', .ok o)) :
    flow.Opens now s request s' o := by
  unfold login at h
  split at h
  · cases h
  next user huser =>
  split at h
  · cases h
  next hpassword =>
  split at h
  · cases h
  next roles hroles =>
  obtain ⟨-, hfind⟩ := faultOr_eq_ok_iff.1 huser
  obtain ⟨-, hroles⟩ := faultOr_eq_ok_iff.1 hroles
  obtain rfl := Except.ok.inj hroles
  unfold openSession at h
  split at h
  · cases h
  next s₁ accessToken accessClaims hissue =>
  obtain ⟨-, haccess, rfl⟩ := Backend.issue_eq_ok_iff.1 hissue
  split at h
  · cases h
  next s₂ refreshToken refreshClaims hissue' =>
  obtain ⟨-, hrefresh, rfl⟩ := Backend.issue_eq_ok_iff.1 hissue'
  dsimp only at h
  split at h
  · cases h
  next session s₃ hadd =>
  obtain ⟨-, sessions, hcreate, rfl⟩ := Backend.createSession_eq_ok_iff.1 hadd
  obtain ⟨rfl, ho⟩ := Prod.mk.inj h
  obtain rfl := Except.ok.inj ho
  exact ⟨hfind, hpassword, haccess, hrefresh, ⟨session, hcreate, rfl⟩, rfl, rfl⟩

/-- When no call fails, what opens a session is a login that succeeds. -/
theorem Opens.login_eq {o : LoginOutcome} (h : flow.Opens now s request s' o) (hfaults : flow.faults = {}) :
    flow.login now s request = (s', .ok o) := by
  obtain ⟨session, hcreate, hid⟩ := h.create_eq
  obtain ⟨users', sessions', issued'⟩ := s'
  obtain rfl : users' = s.users := h.users_eq
  obtain rfl : issued' = s.issued + 2 := h.issued_eq
  have haccess := Backend.issue_eq_ok_iff (b := flow.toBackend).2 ⟨by rw [hfaults], h.access_eq, rfl⟩
  have hrefresh := Backend.issue_eq_ok_iff (b := flow.toBackend) (s := { s with issued := s.issued + 1 }).2
    ⟨by rw [hfaults], h.refresh_eq, rfl⟩
  have hsession := Backend.createSession_eq_ok_iff (b := flow.toBackend) (s := { s with issued := s.issued + 2 }).2
    ⟨by rw [hfaults], sessions', hcreate, rfl⟩
  have hfind : flow.findUser s request.username = .ok o.user :=
    faultOr_eq_ok_iff.2 ⟨by rw [hfaults], h.find_eq⟩
  have hroles : flow.toBackend.rolesOf s o.user.id = .ok (s.users.rolesOf o.user.id) :=
    faultOr_eq_ok_iff.2 ⟨by rw [hfaults], rfl⟩
  unfold newSession at hsession
  simp only [login, hfind, h.password_ok, hroles, openSession, haccess, hrefresh, hsession]
  rw [← hid]

/-- When no call fails, a login succeeds that has the right password, expiries in range and a free identifier. -/
theorem login_succeeds (flow : Flow) (now : Instant) (s : State) (request : LoginRequest) {user : User}
    {accessEnd refreshEnd : Instant} (hfaults : flow.faults = {}) (hfind : s.users.find request.username = .ok user)
    (hpassword : Password.verify request.password user.passwordHash = .ok ())
    (haccess : now.floor.add? flow.accessLifetime = some accessEnd)
    (hrefresh : now.floor.add? flow.refreshLifetime = some refreshEnd)
    (hfree : s.sessions.get? (flow.ids (s.issued + 1)) = none) :
    ∃ s' o, flow.login now s request = (s', .ok o) ∧ o.user = user ∧ o.accessClaims.expireAt = accessEnd ∧
      o.refreshClaims.expireAt = refreshEnd := by
  let claims (id : Uuid) (expireAt : Instant) (roles : List Role) : Claims :=
    { id, userId := user.id, issuedAt := now.floor, expireAt, notBefore := now.floor, audience := flow.maker.audience,
      issuer := flow.maker.issuer, subject := Claims.subjectText, roles }
  let accessClaims := claims (flow.ids s.issued) accessEnd (s.users.rolesOf user.id)
  let refreshClaims := claims (flow.ids (s.issued + 1)) refreshEnd []
  let o : LoginOutcome :=
    { sessionId := refreshClaims.id, accessToken := flow.maker.sign accessClaims, accessClaims,
      refreshToken := flow.maker.sign refreshClaims, refreshClaims, user }
  let session := SessionStore.opened now (newSession request o)
  have hopens : flow.Opens now s request
      { s with sessions := ⟨s.sessions.sessions ++ [session]⟩, issued := s.issued + 2 } o :=
    { find_eq := hfind
      password_ok := hpassword
      access_eq := TokenMaker.issue_eq_ok_iff.2 ⟨rfl, accessEnd, haccess, rfl⟩
      refresh_eq := TokenMaker.issue_eq_ok_iff.2 ⟨rfl, refreshEnd, hrefresh, rfl⟩
      create_eq := ⟨session, SessionStore.create_eq_ok_iff.2 ⟨hfree, rfl, rfl⟩, rfl⟩
      users_eq := rfl
      issued_eq := rfl }
  exact ⟨_, o, hopens.login_eq hfaults, rfl, rfl, rfl⟩

/-- A login that fails changes nothing but the count of tokens asked for. -/
theorem state_of_login_error {e : ServiceError} (h : flow.login now s request = (s', .error e)) :
    ∃ n, s' = { s with issued := s.issued + n } := by
  unfold login at h
  split at h
  · exact ⟨0, (Prod.mk.inj h).1.symm⟩
  split at h
  · exact ⟨0, (Prod.mk.inj h).1.symm⟩
  split at h
  · exact ⟨0, (Prod.mk.inj h).1.symm⟩
  unfold openSession at h
  split at h
  · next s₁ e₁ hissue =>
    obtain ⟨rfl, -⟩ := Prod.mk.inj h
    exact ⟨1, Backend.state_of_issue hissue⟩
  next s₁ accessToken accessClaims hissue =>
  obtain rfl := Backend.state_of_issue hissue
  split at h
  · next s₂ e₂ hissue' =>
    obtain ⟨rfl, -⟩ := Prod.mk.inj h
    exact ⟨2, Backend.state_of_issue hissue'⟩
  next s₂ refreshToken refreshClaims hissue' =>
  obtain rfl := Backend.state_of_issue hissue'
  dsimp only at h
  split at h
  · exact ⟨2, (Prod.mk.inj h).1.symm⟩
  · cases (Prod.mk.inj h).2

/-- A login that fails leaves both stores as they were. -/
theorem stores_of_login_error {e : ServiceError} (h : flow.login now s request = (s', .error e)) :
    s'.users = s.users ∧ s'.sessions = s.sessions := by
  obtain ⟨n, rfl⟩ := state_of_login_error h
  exact ⟨rfl, rfl⟩

/-! ## Refresh -/

/-- The flow accepts the tokens that its maker accepts. -/
theorem verify_eq_ok_iff {c : Claims} : flow.verify now token = .ok c ↔ flow.maker.verify now token = .ok c := by
  rw [verify, mapError_eq_ok_iff]

/-- A refresh changes nothing but the count of tokens asked for, whatever it answers. -/
theorem state_of_refresh {outcome : Except ServiceError RefreshOutcome}
    (h : flow.refresh now s token = (s', outcome)) : ∃ n, s' = { s with issued := s.issued + n } := by
  unfold refresh at h
  split at h
  · exact ⟨0, (Prod.mk.inj h).1.symm⟩
  split at h
  · exact ⟨0, (Prod.mk.inj h).1.symm⟩
  split at h
  · split at h
    · exact ⟨0, (Prod.mk.inj h).1.symm⟩
    -- Whether the token is issued or not, the state is the one after the request for it.
    · split at h
      all_goals
        next s₁ _ hissue =>
        obtain ⟨rfl, -⟩ := Prod.mk.inj h
        exact ⟨1, Backend.state_of_issue hissue⟩
  · exact ⟨0, (Prod.mk.inj h).1.symm⟩

/-- A refresh leaves both stores as they were, whatever it answers. -/
theorem stores_of_refresh {outcome : Except ServiceError RefreshOutcome}
    (h : flow.refresh now s token = (s', outcome)) : s'.users = s.users ∧ s'.sessions = s.sessions := by
  obtain ⟨n, rfl⟩ := state_of_refresh h
  exact ⟨rfl, rfl⟩

/-- What a refresh that succeeds comes from, and what it leaves behind. -/
structure Renews (flow : Flow) (now : Instant) (s : State) (token : String) (s' : State) (c : Claims)
    (r : RefreshOutcome) : Prop where
  verify_eq : flow.maker.verify now token = .ok c
  /-- A session stands behind the refresh token. -/
  honours_eq : ∃ session, s.sessions.get? c.id = some session ∧ honours session now token c = true
  /-- The access token is issued with the roles that the user has now. -/
  access_eq : flow.maker.issue now (flow.ids s.issued) c.userId (s.users.rolesOf c.userId) flow.accessLifetime =
    .ok (r.accessToken, r.accessClaims)
  state_eq : s' = { s with issued := s.issued + 1 }

/-- A refresh that succeeds renews the access token for the claims of a refresh token. -/
theorem renews_of_refresh {r : RefreshOutcome} (h : flow.refresh now s token = (s', .ok r)) :
    ∃ c, flow.Renews now s token s' c r := by
  unfold refresh at h
  split at h
  · cases h
  next c hverify =>
  split at h
  · cases h
  next session hsession =>
  split at h
  · next hhonours =>
    split at h
    · cases h
    next roles hroles =>
    obtain ⟨-, hroles⟩ := faultOr_eq_ok_iff.1 hroles
    obtain rfl := Except.ok.inj hroles
    split at h
    · cases h
    next s₁ accessToken accessClaims hissue =>
    obtain ⟨-, haccess, rfl⟩ := Backend.issue_eq_ok_iff.1 hissue
    obtain ⟨rfl, hr⟩ := Prod.mk.inj h
    obtain rfl := Except.ok.inj hr
    obtain ⟨-, hget⟩ := faultOr_eq_ok_iff.1 hsession
    exact ⟨c, verify_eq_ok_iff.1 hverify, ⟨session, SessionStore.get_eq_ok_iff.1 hget, hhonours⟩, haccess, rfl⟩
  · cases h

/-- A token that does not verify is not refreshed. -/
theorem refresh_of_verify_error {e : TokenError} (h : flow.maker.verify now token = .error e) :
    flow.refresh now s token = (s, .error .notAuthenticated) := by
  simp only [refresh, verify, h, Except.mapError]

section Session

variable {c : Claims} {session : Session}

/-- A token whose session does not stand behind it is not refreshed. -/
theorem refresh_of_not_honoured (hverify : flow.maker.verify now token = .ok c)
    (hsession : flow.getSession s c.id = .ok session) (h : honours session now token c = false) :
    flow.refresh now s token = (s, .error .notAuthenticated) := by
  simp only [refresh, verify_eq_ok_iff.2 hverify, hsession, h, Bool.false_eq_true, if_false]

/-- A token whose session stands behind it is refreshed with the roles that its user has now. -/
theorem refresh_of_honoured {accessToken : String} {accessClaims : Claims}
    (hverify : flow.maker.verify now token = .ok c) (hsession : flow.getSession s c.id = .ok session)
    (h : honours session now token c = true) (hroles : flow.faults.rolesOf = none)
    (hissue : flow.issue now s c.userId (s.users.rolesOf c.userId) flow.accessLifetime =
      (s', .ok (accessToken, accessClaims))) :
    flow.refresh now s token = (s', .ok { accessToken, accessClaims }) := by
  have hrolesOf : flow.toBackend.rolesOf s c.userId = .ok (s.users.rolesOf c.userId) :=
    faultOr_eq_ok_iff.2 ⟨hroles, rfl⟩
  simp only [refresh, verify_eq_ok_iff.2 hverify, hsession, h, if_true, hrolesOf, hissue]

end Session

/-! ## Logout -/

/-- A token that does not verify logs nothing out. -/
theorem logout_of_verify_error {e : TokenError} (h : flow.maker.verify now token = .error e) :
    flow.logout now s token = (s, .error .notAuthenticated) := by
  simp only [logout, verify, h, Except.mapError]

/-- A token without a session logs nothing out. -/
theorem logout_of_absent {c : Claims} (hverify : flow.maker.verify now token = .ok c)
    (hfault : flow.faults.updateSession = none) (hnone : s.sessions.get? c.id = none) :
    flow.logout now s token = (s, .error (.notFound ("session " ++ c.id.toString))) := by
  have hset : flow.setBlocked s c.id true = .error (SessionStore.missing c.id) := by
    unfold Backend.setBlocked SessionStore.setBlocked SessionStore.update
    rw [hfault, hnone]
    rfl
  simp only [logout, verify_eq_ok_iff.2 hverify, hset]
  rfl

/-- What a logout that succeeds comes from, and what it leaves behind. -/
structure Blocks (flow : Flow) (now : Instant) (s : State) (token : String) (s' : State) (c : Claims) : Prop where
  verify_eq : flow.maker.verify now token = .ok c
  setBlocked_eq : ∃ session, s.sessions.setBlocked c.id true = .ok (session, s'.sessions)
  users_eq : s'.users = s.users
  issued_eq : s'.issued = s.issued

/-- The token of a logout that succeeds is authentic. -/
theorem Blocks.authentic {c : Claims} (h : flow.Blocks now s token s' c) : flow.maker.Authentic token c :=
  TokenMaker.authentic_of_verify h.verify_eq

/-- A logout that succeeds blocks the session of the token's claims. -/
theorem blocks_of_logout (h : flow.logout now s token = (s', .ok ())) : ∃ c, flow.Blocks now s token s' c := by
  unfold logout at h
  split at h
  · cases h
  next c hverify =>
  split at h
  · cases h
  next session s₁ hset =>
  obtain ⟨-, sessions, hset', rfl⟩ := Backend.setBlocked_eq_ok_iff.1 hset
  obtain ⟨rfl, -⟩ := Prod.mk.inj h
  exact ⟨c, verify_eq_ok_iff.1 hverify, ⟨session, hset'⟩, rfl, rfl⟩

/-- A logout that fails changes nothing. -/
theorem state_of_logout_error {e : ServiceError} (h : flow.logout now s token = (s', .error e)) : s' = s := by
  unfold logout at h
  split at h
  · exact (Prod.mk.inj h).1.symm
  split at h
  · exact (Prod.mk.inj h).1.symm
  · cases (Prod.mk.inj h).2

end Flow

end Gatehouse.Auth
