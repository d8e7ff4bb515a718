import Mathlib
import Gatehouse.Auth.Flow

/-!
# How login, refresh and logout fail

An operation of the flow fails with what a store reports, with what is wrong with a password, because a token is not
honoured, or because a token cannot be made (`Flow.Fails`). No other error is answered, whatever the stores, the token
maker and the stored hashes are.
-/

namespace Gatehouse.Auth

/-- Where a failure of the flow comes from. -/
inductive Flow.Fails (flow : Flow) (now : Instant) : ServiceError → Prop
  | token : Fails flow now .notAuthenticated
  | store (e : StoreError) : Fails flow now (.ofStore e)
  | password {password stored : String} {e : ServiceError} (h : Password.verify password stored = .error e) :
    Fails flow now e
  /-- A token that is asked for lasts as long as the flow says. -/
  | issue {s s' : State} {userId : Uuid} {roles : List Role} {lifetime : Duration} {e : TokenError}
    (hlifetime : lifetime = flow.accessLifetime ∨ lifetime = flow.refreshLifetime)
    (h : flow.issue now s userId roles lifetime = (s', .error e)) : Fails flow now (.token e)

/-- A password is refused as not authentic, or because the stored text is no hash. -/
theorem password_error {password stored : String} {e : ServiceError} (h : Password.verify password stored = .error e) :
    e = .notAuthenticated ∨ ∃ text, e = .configuration text := by
  unfold Password.verify at h
  split at h
  · exact Or.inr ⟨_, (Except.error.inj h).symm⟩
  split at h
  · exact Or.inl (Except.error.inj h).symm
  · split_ifs at h
    exact Or.inl (Except.error.inj h).symm

namespace Flow

variable {flow : Flow} {now : Instant} {s s' : State} {e : ServiceError}

/-- A token that does not verify is not honoured. -/
theorem fails_of_verify {token : String} (h : flow.verify now token = .error e) : flow.Fails now e := by
  unfold verify at h
  cases hverify : flow.maker.verify now token with
  | error fault =>
    rw [hverify] at h
    obtain rfl := Except.error.inj h
    exact .token
  | ok claims =>
    rw [hverify] at h
    cases h

/-- How opening a session fails. -/
theorem fails_of_openSession {request : LoginRequest} {user : User} {roles : List Role}
    (h : flow.openSession now s request user roles = (s', .error e)) : flow.Fails now e := by
  unfold openSession at h
  split at h
  · next hissue =>
    obtain rfl := Except.error.inj (Prod.mk.inj h).2
    exact .issue (Or.inl rfl) hissue
  split at h
  · next hissue =>
    obtain rfl := Except.error.inj (Prod.mk.inj h).2
    exact .issue (Or.inr rfl) hissue
  dsimp only at h
  split at h
  · obtain rfl := Except.error.inj (Prod.mk.inj h).2
    exact .store _
  · cases (Prod.mk.inj h).2

/-- How a login fails. -/
theorem fails_of_login {request : LoginRequest} (h : flow.login now s request = (s', .error e)) :
    flow.Fails now e := by
  unfold login at h
  split at h
  · obtain rfl := Except.error.inj (Prod.mk.inj h).2
    exact .store _
  split at h
  · next hpassword =>
    obtain rfl := Except.error.inj (Prod.mk.inj h).2
    exact .password hpassword
  split at h
  · obtain rfl := Except.error.inj (Prod.mk.inj h).2
    exact .store _
  · exact fails_of_openSession h

/-- How a refresh fails. -/
theorem fails_of_refresh {token : String} (h : flow.refresh now s token = (s', .error e)) : flow.Fails now e := by
  unfold refresh at h
  split at h
  · next hverify =>
    obtain rfl := Except.error.inj (Prod.mk.inj h).2
    exact fails_of_verify hverify
  split at h
  · obtain rfl := Except.error.inj (Prod.mk.inj h).2
    exact .store _
  split_ifs at h
  · split at h
    · obtain rfl := Except.error.inj (Prod.mk.inj h).2
      exact .store _
    split at h
    · next hissue =>
      obtain rfl := Except.error.inj (Prod.mk.inj h).2
      exact .issue (Or.inl rfl) hissue
    · cases (Prod.mk.inj h).2
  · obtain rfl := Except.error.inj (Prod.mk.inj h).2
    exact .token

/-- How a logout fails. -/
theorem fails_of_logout {token : String} (h : flow.logout now s token = (s', .error e)) : flow.Fails now e := by
  unfold logout at h
  split at h
  · next hverify =>
    obtain rfl := Except.error.inj (Prod.mk.inj h).2
    exact fails_of_verify hverify
  split at h
  · obtain rfl := Except.error.inj (Prod.mk.inj h).2
    exact .store _
  · cases (Prod.mk.inj h).2

/-- A failure to make a token is one of the token maker. -/
theorem Fails.exists_issue {fault : TokenError} (h : flow.Fails now (.token fault)) :
    ∃ (s s' : State) (userId : Uuid) (roles : List Role) (lifetime : Duration),
      (lifetime = flow.accessLifetime ∨ lifetime = flow.refreshLifetime) ∧
        flow.issue now s userId roles lifetime = (s', .error fault) := by
  generalize herror : ServiceError.token fault = e at h
  cases h with
  | token => cases herror
  | store e => cases e <;> cases herror
  | password hpassword =>
    rcases password_error hpassword with rfl | ⟨text, rfl⟩
    · cases herror
    · cases herror
  | issue hlifetime hissue =>
    obtain rfl := ServiceError.token.inj herror
    exact ⟨_, _, _, _, _, hlifetime, hissue⟩

end Flow

end Gatehouse.Auth
