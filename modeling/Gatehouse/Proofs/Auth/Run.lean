import Mathlib
import Gatehouse.Proofs.Auth.Flow

/-!
# Runs

A run is a list of events, each at its time: calls of the flow in any order and with any arguments, and changes of the
users in between. A session that is there stays there with all its fields but the blocked mark, which is set by the
logouts of its identifier and by nothing else (`get?_run`).
-/

namespace Gatehouse

/-- A change of the users from outside the flow. -/
inductive UserStore.Change
  | insert (id : Uuid) (new : NewUser) (roles : List Role)
  | setRoles (id : Uuid) (roles : List Role)

/-- The users after a change; an insertion that fails is none. -/
def UserStore.apply (store : UserStore) (now : Instant) : Change → UserStore
  | .insert id new roles =>
    match store.insert id now new roles with
    | .ok (_, store) => store
    | .error _ => store
  | .setRoles id roles => store.setRoles id roles

namespace Auth

/-- A call of the flow, or a change of the users. -/
inductive Event
  | login (request : LoginRequest)
  | refresh (token : String)
  | logout (token : String)
  | users (change : UserStore.Change)

namespace Flow

/-- The state after an event. -/
def step (flow : Flow) (now : Instant) (s : State) : Event → State
  | .login request => (flow.login now s request).1
  | .refresh token => (flow.refresh now s token).1
  | .logout token => (flow.logout now s token).1
  | .users change => { s with users := s.users.apply now change }

/-- The state after a run. -/
def run (flow : Flow) (s : State) : List (Instant × Event) → State
  | [] => s
  | (now, event) :: rest => run flow (flow.step now s event) rest

variable {flow : Flow} {s : State} {id : Uuid}

/-- A run goes on after its first event. -/
theorem run_cons (now : Instant) (event : Event) (rest : List (Instant × Event)) :
    flow.run s ((now, event) :: rest) = flow.run (flow.step now s event) rest := rfl

/-- A run goes on where the run before it ended. -/
theorem run_append (before after : List (Instant × Event)) :
    flow.run s (before ++ after) = flow.run (flow.run s before) after := by
  induction before generalizing s with
  | nil => rfl
  | cons e before ih =>
    rw [List.cons_append, run_cons, run_cons, ih]

/-! ## Logouts of an identifier -/

/-- An event is the logout of a token that carries an identifier, and it succeeds. -/
def Ends (flow : Flow) (now : Instant) (s : State) (event : Event) (id : Uuid) : Prop :=
  ∃ token c, event = .logout token ∧ (flow.logout now s token).2 = .ok () ∧ flow.maker.Authentic token c ∧ c.id = id

/-- Somewhere in a run, the logout of a token that carries an identifier succeeds. -/
def LogsOut (flow : Flow) (s : State) (events : List (Instant × Event)) (id : Uuid) : Prop :=
  ∃ before now event after, events = before ++ (now, event) :: after ∧ flow.Ends now (flow.run s before) event id

/-- Nothing is logged out by no event. -/
theorem not_logsOut_nil : ¬flow.LogsOut s [] id := by
  rintro ⟨before, now, event, after, h, -⟩
  simp at h

/-- A run logs out what its first event or the rest of the run logs out. -/
theorem logsOut_cons_iff {now : Instant} {event : Event} {rest : List (Instant × Event)} :
    flow.LogsOut s ((now, event) :: rest) id ↔
      flow.Ends now s event id ∨ flow.LogsOut (flow.step now s event) rest id := by
  constructor
  · rintro ⟨_ | ⟨e, before⟩, now', event', after, h, hends⟩
    · obtain ⟨hfirst, -⟩ := List.cons.inj h
      obtain ⟨rfl, rfl⟩ := Prod.mk.inj hfirst
      exact Or.inl hends
    · obtain ⟨rfl, rfl⟩ := List.cons.inj h
      exact Or.inr ⟨before, now', event', after, rfl, hends⟩
  · rintro (hends | ⟨before, now', event', after, rfl, hends⟩)
    · exact ⟨[], now, event, rest, rfl, hends⟩
    · exact ⟨(now, event) :: before, now', event', after, rfl, hends⟩

/-! ## What becomes of a session -/

/-- An event that does not log out the identifier of a session leaves the session as it is. -/
theorem get?_step_of_not_ends {now : Instant} {event : Event} {row : Session}
    (hrow : s.sessions.get? id = some row) (h : ¬flow.Ends now s event id) :
    (flow.step now s event).sessions.get? id = some row := by
  cases event with
  | login request =>
    change (flow.login now s request).1.sessions.get? id = some row
    generalize hlogin : flow.login now s request = answer
    obtain ⟨s', _ | o⟩ := answer
    · rw [(stores_of_login_error hlogin).2, hrow]
    · obtain ⟨session, hcreate, -⟩ := (opens_of_login hlogin).create_eq
      exact SessionStore.get?_create_of_some hcreate hrow
  | refresh token =>
    change (flow.refresh now s token).1.sessions.get? id = some row
    generalize hrefresh : flow.refresh now s token = answer
    obtain ⟨s', outcome⟩ := answer
    rw [(stores_of_refresh hrefresh).2, hrow]
  | logout token =>
    change (flow.logout now s token).1.sessions.get? id = some row
    generalize hlogout : flow.logout now s token = answer
    obtain ⟨s', e | ⟨⟩⟩ := answer
    · rw [state_of_logout_error hlogout, hrow]
    · obtain ⟨c, hblocks⟩ := blocks_of_logout hlogout
      obtain ⟨session, hset⟩ := hblocks.setBlocked_eq
      have hother : id ≠ c.id := by
        rintro rfl
        exact h ⟨token, c, rfl, by rw [hlogout], hblocks.authentic, rfl⟩
      change s'.sessions.get? id = some row
      rw [SessionStore.get?_setBlocked hset, if_neg hother, hrow]
  | users change => exact hrow

/-- An event that logs out the identifier of a session blocks the session. -/
theorem get?_step_of_ends {now : Instant} {event : Event} {row : Session} (hrow : s.sessions.get? id = some row)
    (h : flow.Ends now s event id) :
    (flow.step now s event).sessions.get? id = some { row with isBlocked := true } := by
  obtain ⟨token, c, rfl, hok, hauthentic, rfl⟩ := h
  change (flow.logout now s token).1.sessions.get? c.id = _
  generalize hlogout : flow.logout now s token = answer at hok
  obtain ⟨s', outcome⟩ := answer
  obtain rfl : outcome = .ok () := hok
  obtain ⟨c', hblocks⟩ := blocks_of_logout hlogout
  obtain rfl := hauthentic.unique hblocks.authentic
  obtain ⟨session, hset⟩ := hblocks.setBlocked_eq
  change s'.sessions.get? c.id = _
  rw [SessionStore.get?_setBlocked hset, if_pos rfl, hrow]
  rfl

/-- A session that is there stays there through every run, with all its fields but the blocked mark; it is blocked in
the end exactly when it was blocked before or its identifier was logged out. -/
theorem get?_run {row : Session} (hrow : s.sessions.get? id = some row) (events : List (Instant × Event)) :
    ∃ blocked : Bool, (flow.run s events).sessions.get? id = some { row with isBlocked := blocked } ∧
      (blocked = true ↔ row.isBlocked = true ∨ flow.LogsOut s events id) := by
  induction events generalizing s row with
  | nil => exact ⟨row.isBlocked, hrow, by simp [not_logsOut_nil]⟩
  | cons e events ih =>
    obtain ⟨now, event⟩ := e
    rw [run_cons, logsOut_cons_iff]
    by_cases hends : flow.Ends now s event id
    · obtain ⟨blocked, hget, hiff⟩ := ih (get?_step_of_ends hrow hends)
      exact ⟨blocked, hget, by simp [hiff, hends]⟩
    · obtain ⟨blocked, hget, hiff⟩ := ih (get?_step_of_not_ends hrow hends)
      exact ⟨blocked, hget, by simp [hiff, hends]⟩

end Flow

end Auth

end Gatehouse
