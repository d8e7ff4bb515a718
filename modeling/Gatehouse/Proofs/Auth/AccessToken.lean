import Mathlib
import Gatehouse.Proofs.Auth.Sessions

/-!
# Access tokens are no refresh tokens

Both kinds of tokens verify under the same key. What keeps them apart is that no session stands behind an access token:
the identifiers of sessions are drawn for refresh tokens (`Flow.Drawn`), and the one of an access token is drawn for
itself. So an access token is neither refreshed nor logged out, however long after it was answered.
-/

namespace Gatehouse.Auth

namespace Flow

variable {flow : Flow} {now : Instant} {s : State}

/-- An event answers an access token with its claims: it is a login or a refresh that succeeds. -/
inductive Answers (flow : Flow) (now : Instant) (s : State) : Event → String → Claims → Prop
  | login {request : LoginRequest} {s' : State} {o : LoginOutcome} (h : flow.login now s request = (s', .ok o)) :
      Answers flow now s (.login request) o.accessToken o.accessClaims
  | refresh {token : String} {s' : State} {r : RefreshOutcome} (h : flow.refresh now s token = (s', .ok r)) :
      Answers flow now s (.refresh token) r.accessToken r.accessClaims

/-- An access token that is answered is issued under the next identifier, which is counted, with the roles that its user
has then. -/
theorem Answers.issue_eq {event : Event} {token : String} {c : Claims} (h : flow.Answers now s event token c) :
    flow.maker.issue now (flow.ids s.issued) c.userId (s.users.rolesOf c.userId) flow.accessLifetime =
        .ok (token, c) ∧
      s.issued < (flow.step now s event).issued := by
  cases h with
  | login h =>
    have hopens := opens_of_login h
    obtain ⟨-, huser, -⟩ := TokenMaker.claims_of_issue hopens.access_eq
    rw [huser, step, h, hopens.issued_eq]
    exact ⟨hopens.access_eq, by omega⟩
  | refresh h =>
    obtain ⟨c, hrenews⟩ := renews_of_refresh h
    obtain ⟨-, huser, -⟩ := TokenMaker.claims_of_issue hrenews.access_eq
    rw [huser, step, h, hrenews.state_eq]
    exact ⟨hrenews.access_eq, Nat.lt_succ_self _⟩

/-! ## The identifiers of sessions -/

/-- The identifiers of the sessions are ones that were drawn, under numbers of some kind. -/
def Drawn (flow : Flow) (s : State) (p : Nat → Prop) : Prop :=
  ∀ id ∈ s.sessions.sessions.map (·.id), ∃ n, n < s.issued ∧ p n ∧ flow.ids n = id

/-- Numbers are counted up. -/
theorem issued_le_step (event : Event) : s.issued ≤ (flow.step now s event).issued := by
  cases event with
  | login request =>
    change s.issued ≤ (flow.login now s request).1.issued
    generalize hlogin : flow.login now s request = answer
    obtain ⟨s', _ | o⟩ := answer
    · obtain ⟨n, rfl⟩ := state_of_login_error hlogin
      exact Nat.le_add_right _ _
    · rw [(opens_of_login hlogin).issued_eq]
      exact Nat.le_add_right _ _
  | refresh token =>
    change s.issued ≤ (flow.refresh now s token).1.issued
    generalize hrefresh : flow.refresh now s token = answer
    obtain ⟨s', outcome⟩ := answer
    obtain ⟨n, rfl⟩ := state_of_refresh hrefresh
    exact Nat.le_add_right _ _
  | logout token =>
    change s.issued ≤ (flow.logout now s token).1.issued
    generalize hlogout : flow.logout now s token = answer
    obtain ⟨s', e | ⟨⟩⟩ := answer
    · rw [state_of_logout_error hlogout]
    · obtain ⟨c, hblocks⟩ := blocks_of_logout hlogout
      exact hblocks.issued_eq.ge
  | users change => exact le_rfl

/-- Numbers are counted up through a run. -/
theorem issued_le_run (events : List (Instant × Event)) : s.issued ≤ (flow.run s events).issued := by
  induction events generalizing s with
  | nil => exact le_rfl
  | cons e events ih => exact (issued_le_step e.2).trans ih

/-- A session that an event adds has the identifier after the next, which the event draws. -/
theorem id_of_mem_added {event : Event} {row : Session} (hrow : row ∈ flow.added now s event) :
    row.id = flow.ids (s.issued + 1) ∧ s.issued + 1 < (flow.step now s event).issued := by
  rcases flow.added_cases event with hnone | ⟨request, o, hopens, hone⟩
  · rw [hnone] at hrow
    exact absurd hrow List.not_mem_nil
  · rw [hone] at hrow
    obtain rfl := List.mem_singleton.1 hrow
    rw [hopens.issued_eq]
    exact ⟨(TokenMaker.claims_of_issue hopens.refresh_eq).1, by omega⟩

/-- After an event the identifiers of the sessions are drawn, as they were before, if the number that it may draw for a
session is of the kind. -/
theorem Drawn.step {p : Nat → Prop} {event : Event} (h : flow.Drawn s p) (hnew : p (s.issued + 1)) :
    flow.Drawn (flow.step now s event) p := by
  unfold Drawn
  rw [Session.Continues.map_id_eq (continues_step event), List.map_append]
  intro id hid
  rcases List.mem_append.1 hid with hold | hadded
  · obtain ⟨n, hn, hp, rfl⟩ := h id hold
    exact ⟨n, hn.trans_le (issued_le_step event), hp, rfl⟩
  · obtain ⟨row, hrow, rfl⟩ := List.mem_map.1 hadded
    obtain ⟨hdrawn, hlt⟩ := id_of_mem_added hrow
    exact ⟨_, hlt, hnew, hdrawn.symm⟩

/-- After a run the identifiers of the sessions are drawn, as they were before, if all later numbers are of the kind. -/
theorem Drawn.run {p : Nat → Prop} {events : List (Instant × Event)} (h : flow.Drawn s p)
    (hnew : ∀ n, s.issued < n → p n) : flow.Drawn (flow.run s events) p := by
  induction events generalizing s with
  | nil => exact h
  | cons e events ih =>
    refine ih (h.step (hnew _ (Nat.lt_succ_self _))) fun n hn => ?_
    exact hnew n ((issued_le_step e.2).trans_lt hn)

/-- At no time after an access token was answered there is a session of its identifier. -/
theorem get?_of_answers {users : UserStore} {before between : List (Instant × Event)} {issueTime : Instant}
    {event : Event} {token : String} {c : Claims}
    (hids : Set.InjOn flow.ids (Set.Iio (flow.run (.initial users) (before ++ (issueTime, event) :: between)).issued))
    (h : flow.Answers issueTime (flow.run (.initial users) before) event token c) :
    (flow.run (.initial users) (before ++ (issueTime, event) :: between)).sessions.get? c.id = none := by
  obtain ⟨hissue, hcounted⟩ := h.issue_eq
  have hid := (TokenMaker.claims_of_issue hissue).1
  have hall : flow.Drawn (flow.run (.initial users) before) fun _ => True := Drawn.run nofun fun _ _ => trivial
  rw [run_append, run_cons] at hids ⊢
  generalize flow.run (.initial users) before = s at *
  -- The number of the access token is drawn for it alone: those of sessions are before it or after it.
  have hbefore : flow.Drawn s (· ≠ s.issued) := by
    intro id hmem
    obtain ⟨n, hn, -, rfl⟩ := hall id hmem
    exact ⟨n, hn, hn.ne, rfl⟩
  have hafter : flow.Drawn (flow.run (flow.step issueTime s event) between) (· ≠ s.issued) :=
    (hbefore.step (Nat.succ_ne_self _)).run fun n hn => (hcounted.trans hn).ne'
  rw [SessionStore.get?_eq_none_iff, hid]
  intro hmem
  obtain ⟨n, hn, hother, hsame⟩ := hafter _ hmem
  exact hother (hids hn (hcounted.trans_le (issued_le_run between)) hsame)

/-! ## Presenting an access token -/

/-- A token that verifies, but has no session, is neither refreshed nor logged out. -/
theorem refused_of_no_session {token : String} {c : Claims} (hfaults : flow.faults = {})
    (hverify : flow.maker.verify now token = .ok c) (hget : s.sessions.get? c.id = none) :
    flow.refresh now s token = (s, .error (.notFound ("session " ++ c.id.toString))) ∧
      flow.logout now s token = (s, .error (.notFound ("session " ++ c.id.toString))) := by
  have hsession : flow.getSession s c.id = .error (SessionStore.missing c.id) := by
    rw [Backend.getSession, hfaults, SessionStore.get, hget]
    rfl
  refine ⟨?_, logout_of_absent hverify (by rw [hfaults]) hget⟩
  simp only [refresh, verify_eq_ok_iff.2 hverify, hsession]
  rfl

/-- Let a login or a refresh answer an access token in a run from an empty table of sessions, over stores that do not
fail, with identifiers that do not repeat and tokens for whole numbers of seconds, and let the clock not go back from
then on. Whatever happens next, the token is neither refreshed nor logged out, and the attempt changes nothing: until
the expiry of the token the answer is that there is no session for it, and from then on that the caller is not
authenticated. -/
theorem refused_of_answers {users : UserStore} (before between : List (Instant × Event)) {issueTime : Instant}
    (now : Instant) {event : Event} {token : String} {c : Claims} (hfaults : flow.faults = {})
    (hwhole : flow.accessLifetime.nanoseconds % 1000000000 = 0)
    (hids : Set.InjOn flow.ids (Set.Iio (flow.run (.initial users) (before ++ (issueTime, event) :: between)).issued))
    (hanswers : flow.Answers issueTime (flow.run (.initial users) before) event token c)
    (hepoch : Instant.epoch ≤ issueTime) (hclock : issueTime ≤ now) :
    ∃ e, flow.refresh now (flow.run (.initial users) (before ++ (issueTime, event) :: between)) token =
        (flow.run (.initial users) (before ++ (issueTime, event) :: between), .error e) ∧
      flow.logout now (flow.run (.initial users) (before ++ (issueTime, event) :: between)) token =
        (flow.run (.initial users) (before ++ (issueTime, event) :: between), .error e) ∧
      e = if now < c.expireAt then .notFound ("session " ++ c.id.toString) else .notAuthenticated := by
  have hget := get?_of_answers hids hanswers
  obtain ⟨hlive, hexpired⟩ := TokenMaker.verify_of_issue hanswers.issue_eq.1 hepoch hwhole hclock
  by_cases hnow : now < c.expireAt
  · obtain ⟨hrefresh, hlogout⟩ := refused_of_no_session hfaults (hlive hnow) hget
    exact ⟨_, hrefresh, hlogout, (if_pos hnow).symm⟩
  · obtain ⟨e, hverify⟩ := hexpired (not_lt.1 hnow)
    exact ⟨_, refresh_of_verify_error hverify, logout_of_verify_error hverify, (if_neg hnow).symm⟩

end Flow

namespace Sample

/-- The access token of a login is refused as it is answered, for want of a session, and when it has expired. -/
theorem refused_of_answers_of_login :
    ∃ s o, flow.login Instant.epoch (.initial users) request = (s, .ok o) ∧
      (flow.refresh Instant.epoch s o.accessToken).2 =
        .error (.notFound ("session " ++ o.accessClaims.id.toString)) ∧
      (flow.logout { seconds := 600, nanos := 0 } s o.accessToken).2 = .error .notAuthenticated := by
  obtain ⟨s, o, hlogin, hexpire⟩ := login_succeeds
  have hrun : flow.run (.initial users) ([] ++ [(Instant.epoch, .login request)]) = s := Flow.run_login hlogin
  have hanswers : flow.Answers Instant.epoch (flow.run (.initial users) []) (.login request) o.accessToken
      o.accessClaims := .login hlogin
  have hids : Set.InjOn flow.ids
      (Set.Iio (flow.run (.initial users) ([] ++ [(Instant.epoch, .login request)])).issued) := by
    rw [hrun, (Flow.opens_of_login hlogin).issued_eq]
    exact injOn_ids.mono (Set.Iio_subset_Iio (by decide))
  have hrefused (now : Instant) (hnow : Instant.epoch ≤ now) :=
    Flow.refused_of_answers [] [] now rfl (by decide) hids hanswers (by decide) hnow
  rw [hrun] at hrefused
  obtain ⟨e, hrefresh, -, he⟩ := hrefused Instant.epoch le_rfl
  obtain ⟨e', -, hlogout, he'⟩ := hrefused { seconds := 600, nanos := 0 } (by decide)
  refine ⟨s, o, hlogin, ?_, ?_⟩
  · rw [hrefresh, he, hexpire, if_pos (by decide)]
  · rw [hlogout, he', hexpire, if_neg (by decide)]

end Sample

end Gatehouse.Auth
