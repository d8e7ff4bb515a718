import Mathlib
import Gatehouse.Proofs.Auth.FirstFailure
import Gatehouse.Proofs.Auth.Refresh
import Gatehouse.Proofs.Auth.Sessions

/-!
# Logging out

A logout blocks the session under the identifier of its token, whatever else that session holds, and touches nothing
else (`Flow.logout_of_present`); when it fails it touches nothing at all. So a session that was logged out stays so
through every run, to log out once more changes nothing, and the order of two logouts does not matter
(`Flow.logout_decided`).
-/

namespace Gatehouse

/-- A blocked session. -/
def Session.block (row : Session) : Session := { row with isBlocked := true }

/-- Whether a session is blocked or left as it is, it keeps its identifier. -/
theorem Session.id_ite_block (row : Session) (p : Prop) [Decidable p] :
    (if p then row.block else row).id = row.id := by
  split_ifs <;> rfl

/-- An identifier has sessions in a store, and all of them are blocked. -/
structure SessionStore.Ended (store : SessionStore) (id : Uuid) : Prop where
  mem_ids : id ∈ store.sessions.map (·.id)
  blocked : ∀ row ∈ store.sessions, row.id = id → row.isBlocked = true

namespace Auth

namespace State

/-- The state in which the session of an identifier is blocked. -/
def block (s : State) (id : Uuid) : State := { s with sessions := s.sessions.modify id Session.block }

variable {s : State} {id other : Uuid}

/-- The session of an identifier is found blocked, and every other as before. -/
theorem get?_block : (s.block id).sessions.get? other =
    if other = id then (s.sessions.get? other).map Session.block else s.sessions.get? other :=
  SessionStore.get?_modify fun _ => rfl

/-- Blocking takes no session away. -/
theorem get?_block_eq_none_iff : (s.block id).sessions.get? other = none ↔ s.sessions.get? other = none := by
  rw [get?_block]
  split_ifs
  · exact Option.map_eq_none_iff
  · rfl

/-- Blocking keeps the identifiers of the sessions. -/
theorem map_id_block : (s.block id).sessions.sessions.map (·.id) = s.sessions.sessions.map (·.id) := by
  change (s.sessions.sessions.map fun row => if row.id = id then row.block else row).map (·.id) = _
  rw [List.map_map]
  exact List.map_congr_left fun row _ => row.id_ite_block _

/-- In which order two sessions are blocked does not matter. -/
theorem block_comm : (s.block id).block other = (s.block other).block id := by
  have hrows :
      (s.sessions.sessions.map fun row => if row.id = id then row.block else row).map
          (fun row => if row.id = other then row.block else row) =
        (s.sessions.sessions.map fun row => if row.id = other then row.block else row).map
          fun row => if row.id = id then row.block else row := by
    rw [List.map_map, List.map_map]
    refine List.map_congr_left fun row _ => ?_
    dsimp only [Function.comp_apply]
    rw [Session.id_ite_block, Session.id_ite_block]
    split_ifs <;> rfl
  unfold block SessionStore.modify
  dsimp only
  rw [hrows]

/-- What is blocked already stays as it is. -/
theorem block_of_ended (h : s.sessions.Ended id) : s.block id = s := by
  have hsame : s.sessions.sessions.map (fun row => if row.id = id then row.block else row) = s.sessions.sessions := by
    refine (List.map_congr_left fun row hrow => ?_).trans (List.map_id _)
    split_ifs with hid
    · have hblocked := h.blocked row hrow hid
      obtain ⟨_, _, _, _, _, isBlocked, _, _⟩ := row
      obtain rfl : isBlocked = true := hblocked
      rfl
    · rfl
  unfold block SessionStore.modify
  rw [hsame]

/-- Once its session is blocked, an identifier is logged out. -/
theorem ended_block {row : Session} (h : s.sessions.get? id = some row) : (s.block id).sessions.Ended id := by
  refine ⟨?_, ?_⟩
  · by_contra hnone
    rw [← SessionStore.get?_eq_none_iff, get?_block_eq_none_iff, h] at hnone
    cases hnone
  · intro row' hrow' hid
    obtain ⟨before, -, rfl⟩ := List.mem_map.1 hrow'
    by_cases hbefore : before.id = id
    · rw [if_pos hbefore]
      rfl
    · rw [if_neg hbefore] at hid
      exact absurd hid hbefore

end State

namespace Flow

variable {flow : Flow} {now : Instant} {s : State} {token : String} {c : Claims}

/-! ## One logout -/

/-- When the store does not answer, nothing is logged out. -/
theorem logout_of_fault {e : StoreError} (hverify : flow.maker.verify now token = .ok c)
    (hfault : flow.faults.updateSession = some e) : flow.logout now s token = (s, .error (.ofStore e)) := by
  simp only [logout, verify_eq_ok_iff.2 hverify, Backend.setBlocked, hfault, faultOr]

/-- A token with a session logs the session out, whatever the session holds. -/
theorem logout_of_present {row : Session} (hverify : flow.maker.verify now token = .ok c)
    (hfault : flow.faults.updateSession = none) (hrow : s.sessions.get? c.id = some row) :
    flow.logout now s token = (s.block c.id, .ok ()) := by
  have hset : flow.setBlocked s c.id true = .ok (row.block, s.block c.id) := by
    unfold Backend.setBlocked SessionStore.setBlocked SessionStore.update
    rw [hfault, hrow]
    rfl
  simp only [logout, verify_eq_ok_iff.2 hverify, hset]

/-- What a logout answers, by the first of its steps that fails: the token verifies, the store answers, and there is a
session under the identifier of the token. -/
inductive LogoutAnswers (flow : Flow) (now : Instant) (s : State) (token : String) : Except ServiceError Unit → Prop
  | rejected {fault : TokenError} (hverify : flow.maker.verify now token = .error fault) :
    LogoutAnswers flow now s token (.error .notAuthenticated)
  | unwritten {c : Claims} {e : StoreError} {reported : ServiceError} (hverify : flow.maker.verify now token = .ok c)
    (hfault : flow.faults.updateSession = some e) (hreport : Reported e reported) :
    LogoutAnswers flow now s token (.error reported)
  | absent {c : Claims} (hverify : flow.maker.verify now token = .ok c) (hfault : flow.faults.updateSession = none)
    (hnone : s.sessions.get? c.id = none) :
    LogoutAnswers flow now s token (.error (.notFound ("session " ++ c.id.toString)))
  | blocked {c : Claims} {row : Session} (hverify : flow.maker.verify now token = .ok c)
    (hfault : flow.faults.updateSession = none) (hrow : s.sessions.get? c.id = some row) :
    LogoutAnswers flow now s token (.ok ())

/-- A logout answers by the first of its steps that fails. -/
theorem logoutAnswers_logout (flow : Flow) (now : Instant) (s : State) (token : String) :
    flow.LogoutAnswers now s token (flow.logout now s token).2 := by
  cases hverify : flow.maker.verify now token with
  | error fault =>
    rw [logout_of_verify_error hverify]
    exact .rejected hverify
  | ok c =>
    cases hfault : flow.faults.updateSession with
    | some e =>
      rw [logout_of_fault hverify hfault]
      exact .unwritten hverify hfault (reported_iff.2 rfl)
    | none =>
      cases hrow : s.sessions.get? c.id with
      | none =>
        rw [logout_of_absent hverify hfault hrow]
        exact .absent hverify hfault hrow
      | some row =>
        rw [logout_of_present hverify hfault hrow]
        exact .blocked hverify hfault hrow

/-- There is only one answer of the first step that fails. -/
theorem LogoutAnswers.eq_logout {outcome : Except ServiceError Unit} (h : flow.LogoutAnswers now s token outcome) :
    (flow.logout now s token).2 = outcome := by
  cases h with
  | rejected hverify => rw [logout_of_verify_error hverify]
  | unwritten hverify hfault hreport =>
    obtain rfl := reported_iff.1 hreport
    rw [logout_of_fault hverify hfault]
  | absent hverify hfault hnone => rw [logout_of_absent hverify hfault hnone]
  | blocked hverify hfault hrow => rw [logout_of_present hverify hfault hrow]

/-- A logout fails and changes nothing, or it blocks the session of its token. -/
theorem logout_cases (flow : Flow) (now : Instant) (s : State) (token : String) :
    (∃ e, flow.logout now s token = (s, .error e)) ∨
      ∃ c row, flow.maker.verify now token = .ok c ∧ flow.faults.updateSession = none ∧
        s.sessions.get? c.id = some row ∧ flow.logout now s token = (s.block c.id, .ok ()) := by
  generalize hanswer : (flow.logout now s token).2 = answer
  have h := flow.logoutAnswers_logout now s token
  rw [hanswer] at h
  cases h with
  | rejected hverify => exact Or.inl ⟨_, logout_of_verify_error hverify⟩
  | unwritten hverify hfault hreport => exact Or.inl ⟨_, logout_of_fault hverify hfault⟩
  | absent hverify hfault hnone => exact Or.inl ⟨_, logout_of_absent hverify hfault hnone⟩
  | blocked hverify hfault hrow =>
    exact Or.inr ⟨_, _, hverify, hfault, hrow, logout_of_present hverify hfault hrow⟩

/-- A logout fails as not authenticated, for a missing session, or with the failure of the store. -/
theorem LogoutAnswers.error_cases {e : ServiceError} (h : flow.LogoutAnswers now s token (.error e)) :
    e = .notAuthenticated ∨ (∃ what, e = .notFound what) ∨ ∃ cause, e = .store cause := by
  cases h with
  | rejected hverify => exact Or.inl rfl
  | unwritten hverify hfault hreport =>
    cases hreport with
    | missing what => exact Or.inr (Or.inl ⟨what, rfl⟩)
    | failed hother => exact Or.inr (Or.inr ⟨_, rfl⟩)
  | absent hverify hfault hnone => exact Or.inr (Or.inl ⟨_, rfl⟩)

/-! ## Logging out once more -/

/-- An identifier that is logged out stays so through every event: its sessions are not unblocked, and no login opens
another one for it. -/
theorem ended_step {id : Uuid} (h : s.sessions.Ended id) (event : Event) :
    (flow.step now s event).sessions.Ended id := by
  have hcontinues : List.Forall₂ Session.Continues (s.sessions.sessions ++ flow.added now s event)
      (flow.step now s event).sessions.sessions := flow.continues_step event
  refine ⟨?_, ?_⟩
  · rw [Session.Continues.map_id_eq hcontinues, List.map_append]
    exact List.mem_append_left _ h.mem_ids
  · refine Session.Continues.forall_mem hcontinues ?_ ?_
    · rintro row row' ⟨blocked, rfl, hkept⟩ hrow hid
      exact hkept (hrow hid)
    · intro row hrow hid
      rcases List.mem_append.1 hrow with hbefore | hadded
      · exact h.blocked row hbefore hid
      · rcases flow.added_cases event with hnone | ⟨request, o, hopens, hone⟩
        · rw [hnone] at hadded
          exact absurd hadded List.not_mem_nil
        · rw [hone] at hadded
          obtain rfl := List.mem_singleton.1 hadded
          obtain ⟨session, hcreate, -⟩ := hopens.create_eq
          obtain ⟨hfree, -, -⟩ := SessionStore.create_eq_ok_iff.1 hcreate
          obtain rfl : (newSession request o).id = id := hid
          exact absurd h.mem_ids (SessionStore.get?_eq_none_iff.1 hfree)

/-- An identifier that is logged out stays so through every run. -/
theorem ended_run {id : Uuid} (h : s.sessions.Ended id) (events : List (Instant × Event)) :
    (flow.run s events).sessions.Ended id := by
  induction events generalizing s with
  | nil => exact h
  | cons e events ih =>
    obtain ⟨now, event⟩ := e
    exact ih (ended_step h event)

/-- To log out once more what is logged out changes nothing; it succeeds while the token is in force. -/
theorem logout_of_ended (hauthentic : flow.maker.Authentic token c) (hfault : flow.faults.updateSession = none)
    (h : s.sessions.Ended c.id) :
    flow.logout now s token =
      (s, if c.notBefore ≤ now ∧ now < c.expireAt then .ok () else .error .notAuthenticated) := by
  have hverify := hauthentic.verify now
  by_cases hforce : c.notBefore ≤ now ∧ now < c.expireAt
  · rw [if_neg (not_le.2 hforce.2), if_neg (not_lt.2 hforce.1)] at hverify
    cases hrow : s.sessions.get? c.id with
    | none => exact absurd h.mem_ids (SessionStore.get?_eq_none_iff.1 hrow)
    | some row => rw [logout_of_present hverify hfault hrow, State.block_of_ended h, if_pos hforce]
  · rw [if_neg hforce]
    rw [not_and_or, not_le, not_lt] at hforce
    split_ifs at hverify with hexpired hearly
    · exact logout_of_verify_error hverify
    · exact logout_of_verify_error hverify
    · exact absurd hforce (not_or.2 ⟨hearly, hexpired⟩)

/-! ## Two logouts -/

/-- Whether another session is blocked does not matter to a logout. -/
theorem logout_block (flow : Flow) (now : Instant) (s : State) (token : String) (id : Uuid) :
    flow.logout now (s.block id) token = ((flow.logout now s token).1.block id, (flow.logout now s token).2) := by
  generalize hanswer : (flow.logout now s token).2 = answer
  have h := flow.logoutAnswers_logout now s token
  rw [hanswer] at h
  cases h with
  | rejected hverify => rw [logout_of_verify_error hverify, logout_of_verify_error hverify]
  | unwritten hverify hfault hreport =>
    obtain rfl := reported_iff.1 hreport
    rw [logout_of_fault hverify hfault, logout_of_fault hverify hfault]
  | absent hverify hfault hnone =>
    rw [logout_of_absent hverify hfault hnone,
      logout_of_absent hverify hfault (State.get?_block_eq_none_iff.2 hnone)]
  | @blocked c row hverify hfault hrow =>
    cases hkept : (s.block id).sessions.get? c.id with
    | none =>
      rw [State.get?_block_eq_none_iff.1 hkept] at hrow
      cases hrow
    | some row' => rw [logout_of_present hverify hfault hrow, logout_of_present hverify hfault hkept, State.block_comm]

/-- A logout is answered as if another had not come before it, and the state after both does not show which came
first. -/
theorem logout_comm (flow : Flow) (s : State) (now now' : Instant) (token token' : String) :
    (flow.logout now' (flow.logout now s token).1 token').2 = (flow.logout now' s token').2 ∧
      (flow.logout now' (flow.logout now s token).1 token').1 =
        (flow.logout now (flow.logout now' s token').1 token).1 := by
  rcases flow.logout_cases now s token with ⟨e, hfirst⟩ | ⟨c, row, -, -, -, hfirst⟩
  · rcases flow.logout_cases now' s token' with ⟨e', hsecond⟩ | ⟨c', row', -, -, -, hsecond⟩
    · simp only [hfirst, hsecond, and_self]
    · simp only [hfirst, hsecond, logout_block, and_self]
  · rcases flow.logout_cases now' s token' with ⟨e', hsecond⟩ | ⟨c', row', -, -, -, hsecond⟩
    · simp only [hfirst, hsecond, logout_block, and_self]
    · simp only [hfirst, hsecond, logout_block, State.block_comm, and_self]

/-- A logout answers by the first of its steps that fails: it succeeds exactly when the token verifies, the store
answers and there is a session under the identifier of the token, whatever this session holds. When it fails nothing
changes. When it succeeds that session is blocked and nothing else changes, so that after any further events the same
logout changes nothing, and it succeeds for as long as the token is in force. Of two logouts neither matters to the
answer of the other, nor does their order to the state that they leave. -/
theorem logout_decided (flow : Flow) (now : Instant) (s : State) (token : String) :
    (∀ outcome, (flow.logout now s token).2 = outcome ↔ flow.LogoutAnswers now s token outcome) ∧
      ((flow.logout now s token).2 = .ok () ↔
        flow.faults.updateSession = none ∧
          ∃ c row, flow.maker.verify now token = .ok c ∧ s.sessions.get? c.id = some row) ∧
      (∀ e, (flow.logout now s token).2 = .error e →
        (e = .notAuthenticated ∨ (∃ what, e = .notFound what) ∨ ∃ cause, e = .store cause) ∧
          (flow.logout now s token).1 = s) ∧
      (∀ c, flow.maker.verify now token = .ok c → (flow.logout now s token).2 = .ok () →
        let after := (flow.logout now s token).1
        (∃ row, s.sessions.get? c.id = some row ∧
          after.sessions.get? c.id = some { row with isBlocked := true }) ∧
        (∀ id, id ≠ c.id → after.sessions.get? id = s.sessions.get? id) ∧
        after.sessions.sessions.map (·.id) = s.sessions.sessions.map (·.id) ∧
        after.users = s.users ∧ after.issued = s.issued ∧
        ∀ events later, flow.logout later (flow.run after events) token =
          (flow.run after events,
            if c.notBefore ≤ later ∧ later < c.expireAt then .ok () else .error .notAuthenticated)) ∧
      ∀ now' token',
        (flow.logout now' (flow.logout now s token).1 token').2 = (flow.logout now' s token').2 ∧
          (flow.logout now' (flow.logout now s token).1 token').1 =
            (flow.logout now (flow.logout now' s token').1 token).1 := by
  refine ⟨fun outcome => ⟨?_, LogoutAnswers.eq_logout⟩, ⟨?_, ?_⟩, ?_, ?_,
    fun now' token' => flow.logout_comm s now now' token token'⟩
  · rintro rfl
    exact flow.logoutAnswers_logout now s token
  · intro hok
    rcases flow.logout_cases now s token with ⟨e, hfails⟩ | ⟨c, row, hverify, hfault, hrow, -⟩
    · rw [hfails] at hok
      cases hok
    · exact ⟨hfault, c, row, hverify, hrow⟩
  · rintro ⟨hfault, c, row, hverify, hrow⟩
    rw [logout_of_present hverify hfault hrow]
  · intro e he
    have hanswers := flow.logoutAnswers_logout now s token
    rw [he] at hanswers
    exact ⟨hanswers.error_cases, state_of_logout_error (Prod.ext rfl he)⟩
  · intro c hverify hok after
    rcases flow.logout_cases now s token with ⟨e, hfails⟩ | ⟨c', row, hverify', hfault, hrow, hblocks⟩
    · rw [hfails] at hok
      cases hok
    obtain rfl := Except.ok.inj (hverify.symm.trans hverify')
    have hafter : after = s.block c.id := congrArg Prod.fst hblocks
    rw [hafter]
    refine ⟨⟨row, hrow, ?_⟩, fun id hother => ?_, State.map_id_block, rfl, rfl, fun events later => ?_⟩
    · rw [State.get?_block, if_pos rfl, hrow]
      rfl
    · rw [State.get?_block, if_neg hother]
    · exact logout_of_ended (TokenMaker.authentic_of_verify hverify) hfault (ended_run (State.ended_block hrow) events)

end Flow

namespace Sample

/-- The user logs out twice, which the second time changes nothing; once the token has expired, it is refused. -/
theorem logout_decided_of_login :
    ∃ s o after, flow.login Instant.epoch (.initial users) request = (s, .ok o) ∧
      flow.logout Instant.epoch s o.refreshToken = (after, .ok ()) ∧
      flow.logout Instant.epoch after o.refreshToken = (after, .ok ()) ∧
      flow.logout { seconds := 7200, nanos := 0 } after o.refreshToken = (after, .error .notAuthenticated) := by
  obtain ⟨s, o, hlogin, -, -, hexpire⟩ :=
    @Flow.login_succeeds flow Instant.epoch (.initial users) request alice { seconds := 600, nanos := 0 }
      { seconds := 7200, nanos := 0 } rfl rfl verify_request (by decide) (by decide) rfl
  have hopens := Flow.opens_of_login hlogin
  have hauthentic := hopens.authentic (by decide) (by decide) (by decide)
  obtain ⟨-, -, hbegin, -⟩ := hopens.refreshClaims_eq
  have hverify : flow.maker.verify Instant.epoch o.refreshToken = .ok o.refreshClaims := by
    rw [hauthentic.verify, hexpire, hbegin]
    rfl
  obtain ⟨-, hsucceeds, -, heffect, -⟩ := Flow.logout_decided flow Instant.epoch s o.refreshToken
  have hok := hsucceeds.2 ⟨rfl, o.refreshClaims, _, hverify, hopens.get?_eq⟩
  obtain ⟨-, -, -, -, -, hagain⟩ := heffect o.refreshClaims hverify hok
  refine ⟨s, o, _, hlogin, Prod.ext rfl hok, ?_, ?_⟩
  · refine (hagain [] Instant.epoch).trans ?_
    rw [hexpire, hbegin]
    rfl
  · refine (hagain [] { seconds := 7200, nanos := 0 }).trans ?_
    rw [hexpire, hbegin]
    rfl

end Sample

end Auth

end Gatehouse
