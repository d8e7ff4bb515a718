import Mathlib
import Gatehouse.Proofs.Auth.Flow
import Gatehouse.Proofs.Password.Hash

/-!
# The first step that fails

Refresh and login go through their steps in a fixed order, and the first step that fails decides the answer
(`Flow.RefreshAnswers`, `Flow.LoginFails`). It holds for whatever the stores contain and for every fault of the backend.
Whatever a refresh answers, both stores stay as they were, and so they do when a login fails; a login that succeeds adds
one session, and nothing else changes (`Flow.refresh_decided`, `Flow.login_decided`).
-/

namespace Gatehouse

/-- The user of a name is found exactly when there is one. -/
theorem UserStore.find_eq_ok_iff {store : UserStore} {name : String} {user : User} :
    store.find name = .ok user ↔ store.get? name = some user := by
  unfold find
  cases store.get? name <;> simp

namespace Auth

/-- A call fails with the fault for it or, if there is none, when its outcome is a failure. -/
theorem faultOr_eq_error_iff {ε α : Type} {fault : Option ε} {outcome : Except ε α} {e : ε} :
    faultOr fault outcome = .error e ↔ fault = some e ∨ fault = none ∧ outcome = .error e := by
  cases fault <;> simp [faultOr]

/-- How an error of a store is reported: a missing record as such, and anything else as a failure of the store with its
cause. -/
inductive Reported : StoreError → ServiceError → Prop
  | missing (what : String) : Reported (.notFound what) (.notFound what)
  | failed {e : StoreError} (h : ∀ what, e ≠ .notFound what) : Reported e (.store e)

/-- The flow reports errors of stores in this way. -/
theorem reported_iff {e : StoreError} {reported : ServiceError} : Reported e reported ↔ reported = .ofStore e := by
  constructor
  · rintro (what | h)
    · rfl
    · cases e with
      | notFound what => exact absurd rfl (h what)
      | _ => rfl
  · rintro rfl
    cases e with
    | notFound what => exact .missing what
    | _ => exact .failed nofun

/-- A session does not stand behind a refresh token with some claims: it is blocked, or it belongs to another user, or
it holds another token, or it has expired. -/
inductive Refuses (row : Session) (now : Instant) (token : String) (c : Claims) : Prop
  | blocked (h : row.isBlocked = true)
  | foreign (h : row.userId ≠ c.userId)
  | rotated (h : row.refreshToken ≠ token)
  | expired (h : row.expiresAt ≤ now)

/-- A session stands behind a token, or it does not. -/
theorem honours_eq_false_iff {row : Session} {now : Instant} {token : String} {c : Claims} :
    Flow.honours row now token c = false ↔ Refuses row now token c := by
  constructor
  · intro h
    by_contra hnone
    have hblocked : row.isBlocked = false := Bool.eq_false_of_not_eq_true fun hb => hnone (.blocked hb)
    have huser : row.userId = c.userId := not_not.1 fun hu => hnone (.foreign hu)
    have htoken : row.refreshToken = token := not_not.1 fun ht => hnone (.rotated ht)
    have hlive : ¬row.expiresAt ≤ now := fun he => hnone (.expired he)
    simp [Flow.honours, Session.isExpiredAt, hblocked, huser, htoken, hlive] at h
  · rintro (h | h | h | h)
    · simp [Flow.honours, h]
    · simp [Flow.honours, h]
    · simp [Flow.honours, h]
    · simp [Flow.honours, Session.isExpiredAt, h]

namespace Flow

variable {flow : Flow} {now : Instant} {s : State} {token : String} {request : LoginRequest}

/-! ## Refresh -/

/-- A token verifies, and there is a session under the identifier of its claims. -/
structure Finds (flow : Flow) (now : Instant) (s : State) (token : String) (c : Claims) (row : Session) : Prop where
  verify_eq : flow.maker.verify now token = .ok c
  fault_eq : flow.faults.getSession = none
  get?_eq : s.sessions.get? c.id = some row

/-- What a refresh answers, by the first of its steps that fails: the token verifies, its session is looked up, the
session stands behind it, the roles of its user are looked up, and an access token is issued. -/
inductive RefreshAnswers (flow : Flow) (now : Instant) (s : State) (token : String) :
    Except ServiceError RefreshOutcome → Prop
  | rejected {fault : TokenError} (hverify : flow.maker.verify now token = .error fault) :
    RefreshAnswers flow now s token (.error .notAuthenticated)
  | unread {c : Claims} {e : StoreError} {reported : ServiceError} (hverify : flow.maker.verify now token = .ok c)
    (hfault : flow.faults.getSession = some e) (hreport : Reported e reported) :
    RefreshAnswers flow now s token (.error reported)
  | absent {c : Claims} (hverify : flow.maker.verify now token = .ok c) (hfault : flow.faults.getSession = none)
    (hsession : s.sessions.get? c.id = none) :
    RefreshAnswers flow now s token (.error (.notFound ("session " ++ c.id.toString)))
  | refused {c : Claims} {row : Session} (hfinds : flow.Finds now s token c row) (hrefuses : Refuses row now token c) :
    RefreshAnswers flow now s token (.error .notAuthenticated)
  | noRoles {c : Claims} {row : Session} {e : StoreError} {reported : ServiceError}
    (hfinds : flow.Finds now s token c row) (hstands : ¬Refuses row now token c)
    (hfault : flow.faults.rolesOf = some e) (hreport : Reported e reported) :
    RefreshAnswers flow now s token (.error reported)
  | noToken {c : Claims} {row : Session} {s' : State} {fault : TokenError} (hfinds : flow.Finds now s token c row)
    (hstands : ¬Refuses row now token c) (hfault : flow.faults.rolesOf = none)
    (hissue : flow.issue now s c.userId (s.users.rolesOf c.userId) flow.accessLifetime = (s', .error fault)) :
    RefreshAnswers flow now s token (.error (.token fault))
  | renewed {c : Claims} {row : Session} {s' : State} {accessToken : String} {accessClaims : Claims}
    (hfinds : flow.Finds now s token c row) (hstands : ¬Refuses row now token c)
    (hfault : flow.faults.rolesOf = none)
    (hissue : flow.issue now s c.userId (s.users.rolesOf c.userId) flow.accessLifetime =
      (s', .ok (accessToken, accessClaims))) :
    RefreshAnswers flow now s token (.ok { accessToken, accessClaims })

/-- The roles of a user are those of the store if no fault comes instead of them. -/
theorem rolesOf_of_no_fault (h : flow.faults.rolesOf = none) (user : Uuid) :
    flow.toBackend.rolesOf s user = .ok (s.users.rolesOf user) :=
  faultOr_eq_ok_iff.2 ⟨h, rfl⟩

/-- A refresh answers by the first of its steps that fails. -/
theorem refreshAnswers_refresh (flow : Flow) (now : Instant) (s : State) (token : String) :
    flow.RefreshAnswers now s token (flow.refresh now s token).2 := by
  unfold refresh verify
  cases hverify : flow.maker.verify now token with
  | error fault => exact .rejected hverify
  | ok c =>
    dsimp only [Except.mapError]
    split
    next e hget =>
      rcases faultOr_eq_error_iff.1 hget with hfault | ⟨hfault, hnone⟩
      · exact .unread hverify hfault (reported_iff.2 rfl)
      · unfold SessionStore.get at hnone
        split at hnone
        · cases hnone
        next hsession =>
          obtain rfl := Except.error.inj hnone
          exact .absent hverify hfault hsession
    next row hget =>
      obtain ⟨hfault, hsession⟩ := faultOr_eq_ok_iff.1 hget
      have hfinds : flow.Finds now s token c row := ⟨hverify, hfault, SessionStore.get_eq_ok_iff.1 hsession⟩
      split
      next hhonours =>
        have hstands : ¬Refuses row now token c := by
          intro hrefuses
          rw [honours_eq_false_iff.2 hrefuses] at hhonours
          cases hhonours
        split
        next e hroles =>
          rcases faultOr_eq_error_iff.1 hroles with hfault | ⟨-, hnone⟩
          · exact .noRoles hfinds hstands hfault (reported_iff.2 rfl)
          · cases hnone
        next roles hroles =>
          obtain ⟨hfault, hroles⟩ := faultOr_eq_ok_iff.1 hroles
          obtain rfl := Except.ok.inj hroles
          split
          next hissue => exact .noToken hfinds hstands hfault hissue
          next hissue => exact .renewed hfinds hstands hfault hissue
      next hhonours => exact .refused hfinds (honours_eq_false_iff.1 (Bool.eq_false_of_not_eq_true hhonours))

/-- There is only one answer by the first step that fails. -/
theorem RefreshAnswers.eq_refresh {outcome : Except ServiceError RefreshOutcome}
    (h : flow.RefreshAnswers now s token outcome) : (flow.refresh now s token).2 = outcome := by
  have hget {c : Claims} {row : Session} (hfinds : flow.Finds now s token c row) :
      flow.verify now token = .ok c ∧ flow.getSession s c.id = .ok row :=
    ⟨verify_eq_ok_iff.2 hfinds.verify_eq,
      faultOr_eq_ok_iff.2 ⟨hfinds.fault_eq, SessionStore.get_eq_ok_iff.2 hfinds.get?_eq⟩⟩
  have hhonours {c : Claims} {row : Session} (hstands : ¬Refuses row now token c) : honours row now token c = true := by
    rw [← honours_eq_false_iff] at hstands
    exact Bool.eq_true_of_not_eq_false hstands
  cases h with
  | rejected hverify => rw [refresh_of_verify_error hverify]
  | unread hverify hfault hreport =>
    obtain rfl := reported_iff.1 hreport
    simp only [refresh, verify_eq_ok_iff.2 hverify, Backend.getSession, hfault, faultOr]
  | absent hverify hfault hsession =>
    simp only [refresh, verify_eq_ok_iff.2 hverify, Backend.getSession, hfault, faultOr, SessionStore.get, hsession]
    rfl
  | refused hfinds hrefuses =>
    rw [refresh_of_not_honoured hfinds.verify_eq (hget hfinds).2 (honours_eq_false_iff.2 hrefuses)]
  | noRoles hfinds hstands hfault hreport =>
    obtain rfl := reported_iff.1 hreport
    obtain ⟨hverify, hsession⟩ := hget hfinds
    simp only [refresh, hverify, hsession, hhonours hstands, if_true, Backend.rolesOf, hfault, faultOr]
  | noToken hfinds hstands hfault hissue =>
    obtain ⟨hverify, hsession⟩ := hget hfinds
    simp only [refresh, hverify, hsession, hhonours hstands, if_true, rolesOf_of_no_fault hfault, hissue]
  | renewed hfinds hstands hfault hissue =>
    rw [refresh_of_honoured hfinds.verify_eq (hget hfinds).2 (hhonours hstands) hfault hissue]

/-- A refresh answers by the first of its steps that fails, and leaves both stores as they were. -/
theorem refresh_decided (flow : Flow) (now : Instant) (s : State) (token : String) :
    (∀ outcome, (flow.refresh now s token).2 = outcome ↔ flow.RefreshAnswers now s token outcome) ∧
      (flow.refresh now s token).1.users = s.users ∧ (flow.refresh now s token).1.sessions = s.sessions := by
  refine ⟨fun outcome => ⟨?_, RefreshAnswers.eq_refresh⟩, stores_of_refresh rfl⟩
  rintro rfl
  exact refreshAnswers_refresh flow now s token

/-! ## Login -/

/-- The name of a login is that of a user, whose stored hash the password has. -/
structure Knows (flow : Flow) (s : State) (request : LoginRequest) (user : User) : Prop where
  fault_eq : flow.faults.findUser = none
  get?_eq : s.users.get? request.username = some user
  password_ok : ∃ hash, HashText.ofChars user.passwordHash.toList = .ok hash ∧ Password.Matches request.password hash

/-- The access token for the roles of a user is issued, which is the first of the two tokens of a login. -/
structure IssuesAccess (flow : Flow) (now : Instant) (s : State) (user : User) (token : String) (c : Claims) : Prop where
  fault_eq : flow.faults.rolesOf = none
  issue_eq : flow.issue now s user.id (s.users.rolesOf user.id) flow.accessLifetime =
    ({ s with issued := s.issued + 1 }, .ok (token, c))

/-- What a login fails with, by the first of its steps that fails: the user is looked up, the stored hash is read, the
password is compared, the roles are looked up, the access token is issued, the refresh token is issued, and a session is
added under the identifier of the refresh token. -/
inductive LoginFails (flow : Flow) (now : Instant) (s : State) (request : LoginRequest) : ServiceError → Prop
  | noAnswer {e : StoreError} {reported : ServiceError} (hfault : flow.faults.findUser = some e)
    (hreport : Reported e reported) : LoginFails flow now s request reported
  | unknown (hfault : flow.faults.findUser = none) (huser : s.users.get? request.username = none) :
    LoginFails flow now s request (.notFound ("user " ++ request.username))
  | unreadable {user : User} {fault : HashText.Fault} (hfault : flow.faults.findUser = none)
    (huser : s.users.get? request.username = some user)
    (hhash : HashText.ofChars user.passwordHash.toList = .error fault) :
    LoginFails flow now s request (.configuration ("Invalid password hash: " ++ fault.text))
  | wrongPassword {user : User} {hash : HashText} (hfault : flow.faults.findUser = none)
    (huser : s.users.get? request.username = some user)
    (hhash : HashText.ofChars user.passwordHash.toList = .ok hash)
    (hother : ¬Password.Matches request.password hash) : LoginFails flow now s request .notAuthenticated
  | noRoles {user : User} {e : StoreError} {reported : ServiceError} (hknows : flow.Knows s request user)
    (hfault : flow.faults.rolesOf = some e) (hreport : Reported e reported) : LoginFails flow now s request reported
  | noAccess {user : User} {s' : State} {fault : TokenError} (hknows : flow.Knows s request user)
    (hfault : flow.faults.rolesOf = none)
    (hissue : flow.issue now s user.id (s.users.rolesOf user.id) flow.accessLifetime = (s', .error fault)) :
    LoginFails flow now s request (.token fault)
  | noRefresh {user : User} {token : String} {c : Claims} {s' : State} {fault : TokenError}
    (hknows : flow.Knows s request user) (haccess : flow.IssuesAccess now s user token c)
    (hissue : flow.issue now { s with issued := s.issued + 1 } user.id [] flow.refreshLifetime = (s', .error fault)) :
    LoginFails flow now s request (.token fault)
  | noSession {user : User} {token refreshToken : String} {c refreshClaims : Claims} {s' : State} {e : StoreError}
    {reported : ServiceError} (hknows : flow.Knows s request user) (haccess : flow.IssuesAccess now s user token c)
    (hissue : flow.issue now { s with issued := s.issued + 1 } user.id [] flow.refreshLifetime =
      (s', .ok (refreshToken, refreshClaims)))
    (hfault : flow.faults.createSession = some e) (hreport : Reported e reported) :
    LoginFails flow now s request reported
  | taken {user : User} {token refreshToken : String} {c refreshClaims : Claims} {s' : State} {row : Session}
    (hknows : flow.Knows s request user) (haccess : flow.IssuesAccess now s user token c)
    (hissue : flow.issue now { s with issued := s.issued + 1 } user.id [] flow.refreshLifetime =
      (s', .ok (refreshToken, refreshClaims)))
    (hfault : flow.faults.createSession = none) (htaken : s.sessions.get? refreshClaims.id = some row) :
    LoginFails flow now s request (.store (.conflict ("session " ++ refreshClaims.id.toString)))

/-- A user is looked up without success. -/
theorem findUser_eq_error_iff {e : StoreError} {name : String} :
    flow.findUser s name = .error e ↔
      flow.faults.findUser = some e ∨
        flow.faults.findUser = none ∧ s.users.get? name = none ∧ e = .notFound ("user " ++ name) := by
  rw [Backend.findUser, faultOr_eq_error_iff, UserStore.find]
  cases s.users.get? name with
  | none => simp [eq_comm]
  | some user => simp

/-- A user is looked up with success. -/
theorem findUser_eq_ok_iff {user : User} {name : String} :
    flow.findUser s name = .ok user ↔ flow.faults.findUser = none ∧ s.users.get? name = some user := by
  rw [Backend.findUser, faultOr_eq_ok_iff, UserStore.find_eq_ok_iff]

/-- A session is not added. -/
theorem createSession_eq_error_iff {e : StoreError} {new : NewSession} :
    flow.createSession now s new = .error e ↔
      flow.faults.createSession = some e ∨
        flow.faults.createSession = none ∧ (∃ row, s.sessions.get? new.id = some row) ∧
          e = .conflict ("session " ++ new.id.toString) := by
  rw [Backend.createSession, faultOr_eq_error_iff, SessionStore.create]
  cases s.sessions.get? new.id with
  | none => simp [Except.map]
  | some row => simp [Except.map, eq_comm]

/-- A login that fails does so with the first of its steps that fails. -/
theorem loginFails_of_login {s' : State} {e : ServiceError} (h : flow.login now s request = (s', .error e)) :
    flow.LoginFails now s request e := by
  unfold login at h
  split at h
  next e₁ hfind =>
    obtain rfl := Except.error.inj (Prod.mk.inj h).2
    rcases findUser_eq_error_iff.1 hfind with hfault | ⟨hfault, huser, rfl⟩
    · exact .noAnswer hfault (reported_iff.2 rfl)
    · exact .unknown hfault huser
  next user hfind =>
  obtain ⟨hfault, huser⟩ := findUser_eq_ok_iff.1 hfind
  split at h
  next e₁ hpassword =>
    obtain rfl := Except.error.inj (Prod.mk.inj h).2
    cases hhash : HashText.ofChars user.passwordHash.toList with
    | error fault =>
      rw [Password.verify_of_unreadable hhash] at hpassword
      obtain rfl := Except.error.inj hpassword
      exact .unreadable hfault huser hhash
    | ok hash =>
      by_cases hmatches : Password.Matches request.password hash
      · rw [Password.verify_of_matches hhash hmatches] at hpassword
        cases hpassword
      · rw [Password.verify_of_not_matches hhash hmatches] at hpassword
        obtain rfl := Except.error.inj hpassword
        exact .wrongPassword hfault huser hhash hmatches
  next hpassword =>
  have hknows : flow.Knows s request user := ⟨hfault, huser, Password.exists_matches_of_verify hpassword⟩
  split at h
  next e₁ hroles =>
    obtain rfl := Except.error.inj (Prod.mk.inj h).2
    rcases faultOr_eq_error_iff.1 hroles with hfault | ⟨-, hnone⟩
    · exact .noRoles hknows hfault (reported_iff.2 rfl)
    · cases hnone
  next roles hroles =>
  obtain ⟨hfault, hroles⟩ := faultOr_eq_ok_iff.1 hroles
  obtain rfl := Except.ok.inj hroles
  unfold openSession at h
  split at h
  next hissue =>
    obtain rfl := Except.error.inj (Prod.mk.inj h).2
    exact .noAccess hknows hfault hissue
  next s₁ accessToken accessClaims hissue =>
  obtain rfl := Backend.state_of_issue hissue
  have haccess : flow.IssuesAccess now s user accessToken accessClaims := ⟨hfault, hissue⟩
  split at h
  next hissue' =>
    obtain rfl := Except.error.inj (Prod.mk.inj h).2
    exact .noRefresh hknows haccess hissue'
  next s₂ refreshToken refreshClaims hissue' =>
  dsimp only at h
  split at h
  next e₁ hcreate =>
    obtain rfl := Except.error.inj (Prod.mk.inj h).2
    rcases createSession_eq_error_iff.1 hcreate with hfault | ⟨hfault, ⟨row, hrow⟩, rfl⟩
    · exact .noSession hknows haccess hissue' hfault (reported_iff.2 rfl)
    · obtain rfl := Backend.state_of_issue hissue'
      exact .taken hknows haccess hissue' hfault hrow
  next => cases (Prod.mk.inj h).2

/-- There is only one error of the first step that fails. -/
theorem LoginFails.login_eq {e : ServiceError} (h : flow.LoginFails now s request e) :
    (flow.login now s request).2 = .error e := by
  have hpassed {user : User} (hknows : flow.Knows s request user) :
      flow.findUser s request.username = .ok user ∧
        Password.verify request.password user.passwordHash = .ok () := by
    obtain ⟨hash, hhash, hmatches⟩ := hknows.password_ok
    exact ⟨findUser_eq_ok_iff.2 ⟨hknows.fault_eq, hknows.get?_eq⟩, Password.verify_of_matches hhash hmatches⟩
  cases h with
  | noAnswer hfault hreport =>
    obtain rfl := reported_iff.1 hreport
    simp only [login, findUser_eq_error_iff.2 (Or.inl hfault)]
  | unknown hfault huser =>
    simp only [login, findUser_eq_error_iff.2 (Or.inr ⟨hfault, huser, rfl⟩), ServiceError.ofStore]
  | unreadable hfault huser hhash =>
    simp only [login, findUser_eq_ok_iff.2 ⟨hfault, huser⟩, Password.verify_of_unreadable hhash]
  | wrongPassword hfault huser hhash hother =>
    simp only [login, findUser_eq_ok_iff.2 ⟨hfault, huser⟩, Password.verify_of_not_matches hhash hother]
  | noRoles hknows hfault hreport =>
    obtain rfl := reported_iff.1 hreport
    obtain ⟨hfind, hpassword⟩ := hpassed hknows
    simp only [login, hfind, hpassword, Backend.rolesOf, hfault, faultOr]
  | noAccess hknows hfault hissue =>
    obtain ⟨hfind, hpassword⟩ := hpassed hknows
    simp only [login, hfind, hpassword, rolesOf_of_no_fault hfault, openSession, hissue]
  | noRefresh hknows haccess hissue =>
    obtain ⟨hfind, hpassword⟩ := hpassed hknows
    simp only [login, hfind, hpassword, rolesOf_of_no_fault haccess.fault_eq, openSession, haccess.issue_eq, hissue]
  | noSession hknows haccess hissue hfault hreport =>
    obtain rfl := reported_iff.1 hreport
    obtain ⟨hfind, hpassword⟩ := hpassed hknows
    simp only [login, hfind, hpassword, rolesOf_of_no_fault haccess.fault_eq, openSession, haccess.issue_eq, hissue,
      createSession_eq_error_iff.2 (Or.inl hfault)]
  | @taken user token refreshToken c refreshClaims s' row hknows haccess hissue hfault htaken =>
    obtain ⟨hfind, hpassword⟩ := hpassed hknows
    obtain rfl := Backend.state_of_issue hissue
    let new : NewSession :=
      { id := refreshClaims.id, userId := user.id, refreshToken, userAgent := request.userAgent,
        clientIp := request.clientIp, expiresAt := refreshClaims.expireAt }
    have hcreate : flow.createSession now { s with issued := s.issued + 1 + 1 } new =
        .error (.conflict ("session " ++ new.id.toString)) :=
      createSession_eq_error_iff.2 (Or.inr ⟨hfault, ⟨row, htaken⟩, rfl⟩)
    simp only [login, hfind, hpassword, rolesOf_of_no_fault haccess.fault_eq, openSession, haccess.issue_eq, hissue]
    rw [hcreate]
    rfl

/-- A login fails with the first of its steps that fails, and then leaves both stores as they were. One that succeeds
leaves the users as they were and adds one session behind the others, under an identifier that had none: unblocked, for
the user and what the login was asked with, and holding the refresh token that is answered, with its identifier and its
expiry. What is answered are the two tokens that were issued and the identifier of the session. -/
theorem login_decided (flow : Flow) (now : Instant) (s : State) (request : LoginRequest) :
    (∀ e, (flow.login now s request).2 = .error e ↔ flow.LoginFails now s request e) ∧
      (flow.login now s request).1.users = s.users ∧
      (∀ e, (flow.login now s request).2 = .error e → (flow.login now s request).1.sessions = s.sessions) ∧
      ∀ o, (flow.login now s request).2 = .ok o →
        s.users.get? request.username = some o.user ∧
        flow.maker.issue now (flow.ids s.issued) o.user.id (s.users.rolesOf o.user.id) flow.accessLifetime =
          .ok (o.accessToken, o.accessClaims) ∧
        flow.maker.issue now (flow.ids (s.issued + 1)) o.user.id [] flow.refreshLifetime =
          .ok (o.refreshToken, o.refreshClaims) ∧
        o.sessionId = o.refreshClaims.id ∧
        let row : Session :=
          { id := o.refreshClaims.id, userId := o.user.id, refreshToken := o.refreshToken,
            userAgent := request.userAgent, clientIp := request.clientIp, isBlocked := false,
            expiresAt := o.refreshClaims.expireAt, createdAt := now }
        (flow.login now s request).1.sessions.sessions = s.sessions.sessions ++ [row] ∧
          s.sessions.get? row.id = none ∧ (flow.login now s request).1.sessions.get? row.id = some row ∧
          ∀ id, id ≠ row.id → (flow.login now s request).1.sessions.get? id = s.sessions.get? id := by
  generalize hlogin : flow.login now s request = answer
  obtain ⟨s', outcome⟩ := answer
  have hfails (e : ServiceError) : outcome = .error e ↔ flow.LoginFails now s request e := by
    constructor
    · rintro rfl
      exact loginFails_of_login hlogin
    · intro h
      rw [← h.login_eq, hlogin]
  refine ⟨hfails, ?_, ?_, ?_⟩
  · cases outcome with
    | error e => exact (stores_of_login_error hlogin).1
    | ok o => exact (opens_of_login hlogin).users_eq
  · rintro e rfl
    exact (stores_of_login_error hlogin).2
  · rintro o rfl
    have hopens := opens_of_login hlogin
    obtain ⟨session, hcreate, hid⟩ := hopens.create_eq
    obtain ⟨hfree, rfl, hsessions⟩ := SessionStore.create_eq_ok_iff.1 hcreate
    exact ⟨UserStore.find_eq_ok_iff.1 hopens.find_eq, hopens.access_eq, hopens.refresh_eq, hid,
      congrArg SessionStore.sessions hsessions, hfree, SessionStore.get?_create_self hcreate,
      fun id hother => SessionStore.get?_create_of_ne hcreate hother⟩

end Flow

end Auth

end Gatehouse
