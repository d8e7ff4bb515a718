import Mathlib
import Gatehouse.Session.Store

/-!
# Looking up sessions

What a lookup answers after each change of the store: a new session is found under its identifier, a changed one is
found changed, and every other session as before. Each change is described by when it succeeds and what the store is
then (`create_eq_ok_iff`, `update_eq_ok_iff`).
-/

namespace Gatehouse.SessionStore

/-! ## Adding -/

/-- The unblocked session of what is entered. -/
def opened (now : Instant) (new : NewSession) : Session :=
  { id := new.id, userId := new.userId, refreshToken := new.refreshToken, userAgent := new.userAgent,
    clientIp := new.clientIp, isBlocked := false, expiresAt := new.expiresAt, createdAt := now }

/-- A session is added exactly when its identifier is free, at the end and unblocked. -/
theorem create_eq_ok_iff {store store' : SessionStore} {now : Instant} {new : NewSession} {session : Session} :
    store.create now new = .ok (session, store') ↔
      store.get? new.id = none ∧ session = opened now new ∧ store' = ⟨store.sessions ++ [opened now new]⟩ := by
  unfold create
  cases store.get? new.id with
  | some other => simp
  | none =>
    simp only [Except.ok.injEq, Prod.mk.injEq, true_and]
    exact and_congr eq_comm eq_comm

/-- A session that is there is found after another was added. -/
theorem get?_create_of_some {store store' : SessionStore} {now : Instant} {new : NewSession} {session row : Session}
    {id : Uuid} (h : store.create now new = .ok (session, store')) (hrow : store.get? id = some row) :
    store'.get? id = some row := by
  obtain ⟨-, -, rfl⟩ := create_eq_ok_iff.1 h
  unfold get? at hrow ⊢
  rw [List.find?_append, hrow, Option.some_or]

/-- A new session is found under its identifier. -/
theorem get?_create_self {store store' : SessionStore} {now : Instant} {new : NewSession} {session : Session}
    (h : store.create now new = .ok (session, store')) : store'.get? new.id = some session := by
  obtain ⟨hfree, rfl, rfl⟩ := create_eq_ok_iff.1 h
  unfold get? at hfree ⊢
  rw [List.find?_append, hfree, Option.none_or]
  simp [opened]

/-- A new session does not matter to another identifier. -/
theorem get?_create_of_ne {store store' : SessionStore} {now : Instant} {new : NewSession} {session : Session} {id : Uuid}
    (h : store.create now new = .ok (session, store')) (hother : id ≠ new.id) : store'.get? id = store.get? id := by
  obtain ⟨-, -, rfl⟩ := create_eq_ok_iff.1 h
  have hnew : [opened now new].find? (·.id = id) = none := by
    simp [opened, hother.symm]
  unfold get?
  rw [List.find?_append, hnew, Option.or_none]

/-! ## Changing -/

/-- A session is found under its own identifier. -/
theorem id_of_get? {store : SessionStore} {id : Uuid} {row : Session} (h : store.get? id = some row) : row.id = id := by
  simpa using List.find?_some h

/-- An identifier has no session exactly when no session has it. -/
theorem get?_eq_none_iff {store : SessionStore} {id : Uuid} :
    store.get? id = none ↔ id ∉ store.sessions.map (·.id) := by
  unfold get?
  rw [List.find?_eq_none, List.mem_map]
  constructor
  · rintro h ⟨row, hrow, rfl⟩
    exact h row hrow (decide_eq_true rfl)
  · intro h row hrow hid
    exact h ⟨row, hrow, of_decide_eq_true hid⟩

/-- A lookup succeeds exactly with the session that is found. -/
theorem get_eq_ok_iff {store : SessionStore} {id : Uuid} {row : Session} :
    store.get id = .ok row ↔ store.get? id = some row := by
  unfold get
  cases store.get? id <;> simp

/-- After a change that keeps identifiers, the session of the identifier is found changed, and every other as before. -/
theorem get?_modify {store : SessionStore} {id other : Uuid} {change : Session → Session}
    (hkeep : ∀ s, (change s).id = s.id) :
    (store.modify id change).get? other = if other = id then (store.get? other).map change else store.get? other := by
  have htest : (fun s : Session => decide ((if s.id = id then change s else s).id = other)) =
      fun s => decide (s.id = other) := by
    funext s
    split_ifs
    · rw [hkeep]
    · rfl
  have hfind : (store.modify id change).get? other =
      (store.get? other).map fun s => if s.id = id then change s else s := by
    unfold get? modify
    rw [List.find?_map]
    exact congrArg (fun p => (store.sessions.find? p).map fun s => if s.id = id then change s else s) htest
  rw [hfind]
  cases hrow : store.get? other with
  | none => simp
  | some row =>
    have hid := id_of_get? hrow
    subst hid
    split_ifs <;> simp_all

/-- A session is changed exactly when there is one, and the change is to it alone. -/
theorem update_eq_ok_iff {store store' : SessionStore} {id : Uuid} {change : Session → Session} {session : Session} :
    store.update id change = .ok (session, store') ↔
      (∃ row, store.get? id = some row ∧ session = change row) ∧ store' = store.modify id change := by
  unfold update
  cases store.get? id with
  | none => simp
  | some row =>
    simp only [Except.ok.injEq, Prod.mk.injEq, Option.some.injEq, exists_eq_left']
    exact and_congr eq_comm eq_comm

/-- Setting a blocked mark changes the mark of the session, and no other session. -/
theorem get?_setBlocked {store store' : SessionStore} {id other : Uuid} {blocked : Bool} {session : Session}
    (h : store.setBlocked id blocked = .ok (session, store')) :
    store'.get? other =
      if other = id then (store.get? other).map fun s => { s with isBlocked := blocked } else store.get? other := by
  obtain ⟨-, rfl⟩ := update_eq_ok_iff.1 h
  exact get?_modify fun _ => rfl

end Gatehouse.SessionStore
