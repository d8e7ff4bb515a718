import Mathlib
import Gatehouse.Proofs.Session.Store

/-!
# Histories of the session store

A history is a list of calls of the store, each at its time: additions, lookups, blocked marks and replaced tokens, in
any order and for any identifiers. What a call answers, and what it leaves under its identifier, depends only on the
session that the identifier has (`answer_eq`, `get?_call_self`). So the first addition for an identifier makes its
session, which from then on shows the last mark and the last token given for it, whatever happens to other identifiers
(`answers_of_history`).
-/

namespace Gatehouse.SessionStore

/-- A call of the store. -/
inductive Call
  | create (new : NewSession)
  | get (id : Uuid)
  | setBlocked (id : Uuid) (blocked : Bool)
  | replaceToken (id : Uuid) (token : String)

namespace Call

/-- The identifier that a call is for. -/
def id : Call → Uuid
  | .create new => new.id
  | .get id | .setBlocked id _ | .replaceToken id _ => id

/-- A call adds a session for an identifier. -/
def Creates (id : Uuid) (call : Call) : Prop := ∃ new, call = .create new ∧ new.id = id

/-- The blocked mark that a call gives an identifier, if it gives one. -/
def mark? (id : Uuid) : Call → Option Bool
  | .setBlocked other blocked => if other = id then some blocked else none
  | .create _ | .get _ | .replaceToken .. => none

/-- The token that a call gives an identifier in place of another, if it gives one. -/
def token? (id : Uuid) : Call → Option String
  | .replaceToken other token => if other = id then some token else none
  | .create _ | .get _ | .setBlocked .. => none

/-- What a call answers when its identifier has this session, or none. -/
def answer (now : Instant) (row? : Option Session) : Call → Except StoreError Session
  | .create new =>
    match row? with
    | none => .ok (opened now new)
    | some _ => .error (.conflict ("session " ++ new.id.toString))
  | .get id => row?.elim (.error (missing id)) .ok
  | .setBlocked id blocked => row?.elim (.error (missing id)) fun row => .ok { row with isBlocked := blocked }
  | .replaceToken id token => row?.elim (.error (missing id)) fun row => .ok { row with refreshToken := token }

end Call

/-- The store after an operation, and its answer; one that fails leaves the store as it was. -/
def settle (store : SessionStore) :
    Except StoreError (Session × SessionStore) → SessionStore × Except StoreError Session
  | .ok (session, after) => (after, .ok session)
  | .error e => (store, .error e)

/-- The store after a call, and its answer. -/
def call (store : SessionStore) (now : Instant) : Call → SessionStore × Except StoreError Session
  | .create new => store.settle (store.create now new)
  | .get id => (store, store.get id)
  | .setBlocked id blocked => store.settle (store.setBlocked id blocked)
  | .replaceToken id token => store.settle (store.replaceToken id token)

/-- The store after a history. -/
def run (store : SessionStore) : List (Instant × Call) → SessionStore
  | [] => store
  | (now, call) :: rest => run (store.call now call).1 rest

/-- What the calls of a history answer, each with the identifier that it is for. -/
def answers (store : SessionStore) : List (Instant × Call) → List (Uuid × Except StoreError Session)
  | [] => []
  | (now, call) :: rest => (call.id, (store.call now call).2) :: answers (store.call now call).1 rest

/-- The last of the values that calls give, or a first value if none gives any. -/
def lastGiven {α : Type} (given : Call → Option α) (first : α) (calls : List (Instant × Call)) : α :=
  ((calls.filterMap fun entry => given entry.2).getLast?).getD first

/-- What comes after a value that is given counts from it. -/
theorem lastGiven_cons {α : Type} (given : Call → Option α) (first : α) (now : Instant) (call : Call)
    (rest : List (Instant × Call)) :
    lastGiven given first ((now, call) :: rest) = lastGiven given ((given call).getD first) rest := by
  unfold lastGiven
  rw [List.filterMap_cons]
  cases given call with
  | none => rfl
  | some a =>
    dsimp only
    rw [List.getLast?_cons, Option.getD_some, Option.getD_some]

variable {store store' : SessionStore} {now : Instant} {id : Uuid}

/-- A history goes on where the one before it ended. -/
theorem run_append (before after : List (Instant × Call)) :
    store.run (before ++ after) = (store.run before).run after := by
  induction before generalizing store with
  | nil => rfl
  | cons entry before ih =>
    obtain ⟨now, call⟩ := entry
    exact ih

/-! ## One call -/

/-- A change of the session of an identifier answers the changed session, if there is one. -/
theorem settle_update (store : SessionStore) (id : Uuid) (change : Session → Session) :
    (store.settle (store.update id change)).2 =
      (store.get? id).elim (.error (missing id)) fun row => .ok (change row) := by
  unfold update
  cases store.get? id with
  | none => rfl
  | some row => rfl

/-- What a change of a session answers, if it succeeds, is then the session of the identifier. -/
theorem get?_settle_update (store : SessionStore) (id : Uuid) (change : Session → Session)
    (hkeep : ∀ row, (change row).id = row.id) :
    (store.settle (store.update id change)).1.get? id =
      (store.settle (store.update id change)).2.toOption.or (store.get? id) := by
  unfold update
  cases hrow : store.get? id with
  | none => exact hrow
  | some row =>
    change (store.modify id change).get? id = some (change row)
    rw [get?_modify hkeep, if_pos rfl, hrow, Option.map_some]

/-- A change of a session does not matter to another identifier. -/
theorem get?_settle_update_of_ne (change : Session → Session) (hkeep : ∀ row, (change row).id = row.id) {other : Uuid}
    (hother : other ≠ id) : (store.settle (store.update id change)).1.get? other = store.get? other := by
  unfold update
  cases store.get? id with
  | none => rfl
  | some row => exact (get?_modify hkeep).trans (if_neg hother)

/-- A call answers by the session that its identifier has. -/
theorem answer_eq (store : SessionStore) (now : Instant) (call : Call) :
    (store.call now call).2 = call.answer now (store.get? call.id) := by
  cases call with
  | create new =>
    change (store.settle (store.create now new)).2 = (Call.create new).answer now (store.get? new.id)
    unfold create
    cases store.get? new.id with
    | none => rfl
    | some row => rfl
  | get id =>
    change store.get id = (Call.get id).answer now (store.get? id)
    unfold get
    cases store.get? id with
    | none => rfl
    | some row => rfl
  | setBlocked id blocked => exact store.settle_update id _
  | replaceToken id token => exact store.settle_update id _

/-- What a call that succeeds answers is then the session of its identifier, and one that fails leaves that session. -/
theorem get?_call_self (store : SessionStore) (now : Instant) (call : Call) :
    (store.call now call).1.get? call.id = (store.call now call).2.toOption.or (store.get? call.id) := by
  cases call with
  | create new =>
    change (store.settle (store.create now new)).1.get? new.id =
      (store.settle (store.create now new)).2.toOption.or (store.get? new.id)
    cases hcreate : store.create now new with
    | error e => rfl
    | ok answered =>
      obtain ⟨session, store'⟩ := answered
      exact get?_create_self hcreate
  | get id =>
    change store.get? id = (store.get id).toOption.or (store.get? id)
    unfold get
    cases store.get? id with
    | none => rfl
    | some row => rfl
  | setBlocked id blocked =>
    exact store.get?_settle_update id (fun row => { row with isBlocked := blocked }) fun _ => rfl
  | replaceToken id token =>
    exact store.get?_settle_update id (fun row => { row with refreshToken := token }) fun _ => rfl

/-- A call does not matter to the session of another identifier. -/
theorem get?_call_of_ne {call : Call} (hother : id ≠ call.id) : (store.call now call).1.get? id = store.get? id := by
  cases call with
  | create new =>
    change (store.settle (store.create now new)).1.get? id = _
    cases hcreate : store.create now new with
    | error e => rfl
    | ok answered =>
      obtain ⟨session, store'⟩ := answered
      exact get?_create_of_ne hcreate hother
  | get _ => rfl
  | setBlocked other blocked =>
    exact get?_settle_update_of_ne (fun row => { row with isBlocked := blocked }) (fun _ => rfl) hother
  | replaceToken other token =>
    exact get?_settle_update_of_ne (fun row => { row with refreshToken := token }) (fun _ => rfl) hother

/-- A call that fails leaves the store as it was. -/
theorem call_of_error {call : Call} {e : StoreError} (h : (store.call now call).2 = .error e) :
    (store.call now call).1 = store := by
  have hsettle {outcome : Except StoreError (Session × SessionStore)} (ho : (store.settle outcome).2 = .error e) :
      (store.settle outcome).1 = store := by
    cases outcome with
    | error _ => rfl
    | ok answered => cases ho
  cases call with
  | get id => rfl
  | create new => exact hsettle h
  | setBlocked id blocked => exact hsettle h
  | replaceToken id token => exact hsettle h

/-! ## The sessions of one identifier -/

/-- Without a session, and without an addition, an identifier has none after a call. -/
theorem get?_call_of_none {call : Call} (hnone : store.get? id = none) (h : ¬call.Creates id) :
    (store.call now call).1.get? id = none := by
  by_cases hid : id = call.id
  · subst hid
    rw [get?_call_self, answer_eq, hnone]
    cases call with
    | create new => exact absurd ⟨new, rfl, rfl⟩ h
    | get _ => rfl
    | setBlocked _ _ => rfl
    | replaceToken _ _ => rfl
  · rw [get?_call_of_ne hid, hnone]

/-- A session shows the mark and the token that a call gives its identifier. -/
theorem get?_call_of_some {call : Call} {row : Session} (hrow : store.get? id = some row) :
    (store.call now call).1.get? id =
      some { row with
        isBlocked := (call.mark? id).getD row.isBlocked, refreshToken := (call.token? id).getD row.refreshToken } := by
  by_cases hid : id = call.id
  · subst hid
    rw [get?_call_self, answer_eq, hrow]
    cases call with
    | create new => rfl
    | get _ => rfl
    | setBlocked other blocked =>
      have hmark : (Call.setBlocked other blocked).mark? other = some blocked := if_pos rfl
      change _ = some { row with isBlocked := ((Call.setBlocked other blocked).mark? other).getD row.isBlocked }
      rw [hmark]
      rfl
    | replaceToken other token =>
      have htoken : (Call.replaceToken other token).token? other = some token := if_pos rfl
      change _ = some { row with refreshToken := ((Call.replaceToken other token).token? other).getD row.refreshToken }
      rw [htoken]
      rfl
  · have hmark : call.mark? id = none := by
      cases call with
      | setBlocked other blocked => exact if_neg (Ne.symm hid)
      | _ => rfl
    have htoken : call.token? id = none := by
      cases call with
      | replaceToken other token => exact if_neg (Ne.symm hid)
      | _ => rfl
    rw [get?_call_of_ne hid, hrow, hmark, htoken]
    rfl

/-- Without an addition an identifier has no session after a history. -/
theorem get?_run_of_none {calls : List (Instant × Call)} (hnone : store.get? id = none)
    (h : ∀ entry ∈ calls, ¬entry.2.Creates id) : (store.run calls).get? id = none := by
  induction calls generalizing store with
  | nil => exact hnone
  | cons entry calls ih =>
    obtain ⟨now, call⟩ := entry
    obtain ⟨hfirst, hrest⟩ := List.forall_mem_cons.1 h
    exact ih (get?_call_of_none hnone hfirst) hrest

/-- After a history a session shows the last mark and the last token that were given for its identifier. -/
theorem get?_run_of_some {row : Session} (hrow : store.get? id = some row) (calls : List (Instant × Call)) :
    (store.run calls).get? id =
      some { row with
        isBlocked := lastGiven (Call.mark? id) row.isBlocked calls
        refreshToken := lastGiven (Call.token? id) row.refreshToken calls } := by
  induction calls generalizing store row with
  | nil => exact hrow
  | cons entry calls ih =>
    obtain ⟨now, call⟩ := entry
    rw [lastGiven_cons, lastGiven_cons]
    exact ih (get?_call_of_some hrow)

/-- The session of an identifier after a history that adds one: what was added first, with the last mark and the last
token after that. -/
theorem get?_run_of_create {earlier after : List (Instant × Call)} {added : Instant} {new : NewSession}
    (hearlier : ∀ entry ∈ earlier, ¬entry.2.Creates new.id) :
    (empty.run (earlier ++ (added, .create new) :: after)).get? new.id =
      some { opened added new with
        isBlocked := lastGiven (Call.mark? new.id) false after
        refreshToken := lastGiven (Call.token? new.id) new.refreshToken after } := by
  have hfree : (empty.run earlier).get? new.id = none := get?_run_of_none rfl hearlier
  have hadded : ((empty.run earlier).call added (.create new)).1.get? new.id = some (opened added new) := by
    have hself := (empty.run earlier).get?_call_self added (.create new)
    rw [answer_eq, Call.id, hfree] at hself
    exact hself
  rw [run_append]
  exact get?_run_of_some hadded after

/-! ## Other identifiers -/

/-- Where an identifier has the same session, or none, the calls for it are answered alike, whatever other calls there
are. -/
theorem answers_filter {calls : List (Instant × Call)} (h : store.get? id = store'.get? id) :
    (store.answers calls).filter (·.1 = id) = store'.answers (calls.filter (·.2.id = id)) := by
  induction calls generalizing store store' with
  | nil => rfl
  | cons entry calls ih =>
    obtain ⟨now, call⟩ := entry
    rw [answers]
    by_cases hid : call.id = id
    · subst hid
      have hanswer : (store.call now call).2 = (store'.call now call).2 := by
        rw [answer_eq, answer_eq, h]
      have hnext : (store.call now call).1.get? call.id = (store'.call now call).1.get? call.id := by
        rw [get?_call_self, get?_call_self, hanswer, h]
      rw [List.filter_cons_of_pos (by simp), List.filter_cons_of_pos (by simp), answers, ih hnext, hanswer]
    · have hnext : (store.call now call).1.get? id = store'.get? id := by
        rw [get?_call_of_ne (Ne.symm hid), h]
      rw [List.filter_cons_of_neg (by simpa using hid), List.filter_cons_of_neg (by simpa using hid), ih hnext]

/-! ## Histories from an empty store -/

/-- What the next call answers after any history of an empty store. While no session was added for an identifier, an
addition succeeds and makes an unblocked session of what is entered, and every other call for it finds none. Once one
was added, a further addition is a conflict, and the session is the one first added, but for the last blocked mark since
then and the last token since then, which the next mark or the next token takes the place of. A call that fails changes
nothing. And the calls for one identifier are answered as if there were no others. -/
theorem answers_of_history (history : List (Instant × Call)) (id : Uuid) (now : Instant) :
    let next (call : Call) : Except StoreError Session := ((empty.run history).call now call).2
    ((∀ entry ∈ history, ¬entry.2.Creates id) →
      (∀ new, new.id = id →
        next (.create new) = .ok
          { id := id, userId := new.userId, refreshToken := new.refreshToken, userAgent := new.userAgent,
            clientIp := new.clientIp, isBlocked := false, expiresAt := new.expiresAt, createdAt := now }) ∧
      ∀ call, call.id = id → ¬call.Creates id → next call = .error (.notFound ("session " ++ id.toString))) ∧
    (∀ earlier added new after, history = earlier ++ (added, .create new) :: after → new.id = id →
      (∀ entry ∈ earlier, ¬entry.2.Creates id) →
      let row : Session :=
        { id := id, userId := new.userId, refreshToken := lastGiven (Call.token? id) new.refreshToken after,
          userAgent := new.userAgent, clientIp := new.clientIp, isBlocked := lastGiven (Call.mark? id) false after,
          expiresAt := new.expiresAt, createdAt := added }
      next (.get id) = .ok row ∧
        (∀ other, other.id = id → next (.create other) = .error (.conflict ("session " ++ id.toString))) ∧
        (∀ blocked, next (.setBlocked id blocked) = .ok { row with isBlocked := blocked }) ∧
        ∀ token, next (.replaceToken id token) = .ok { row with refreshToken := token }) ∧
    (∀ call e, next call = .error e → ((empty.run history).call now call).1 = empty.run history) ∧
    (empty.answers history).filter (·.1 = id) = empty.answers (history.filter (·.2.id = id)) := by
  intro next
  have hnext (call : Call) : next call = call.answer now ((empty.run history).get? call.id) := answer_eq _ _ _
  refine ⟨fun hnever => ?_, ?_, fun call e he => call_of_error he, answers_filter rfl⟩
  · have hnone : (empty.run history).get? id = none := get?_run_of_none rfl hnever
    refine ⟨?_, fun call hid hother => ?_⟩
    · rintro new rfl
      rw [hnext, Call.id, hnone]
      rfl
    · rw [hnext, hid, hnone]
      cases call with
      | create new => exact absurd ⟨new, rfl, hid⟩ hother
      | get other =>
        obtain rfl : other = id := hid
        rfl
      | setBlocked other blocked =>
        obtain rfl : other = id := hid
        rfl
      | replaceToken other token =>
        obtain rfl : other = id := hid
        rfl
  · rintro earlier added new after rfl rfl hearlier row
    have hrow := @get?_run_of_create earlier after added new hearlier
    refine ⟨?_, ?_, fun blocked => ?_, fun token => ?_⟩
    · rw [hnext, Call.id, hrow]
      rfl
    · intro other hother
      rw [hnext, Call.id, hother, hrow]
      dsimp only [Call.answer]
      rw [hother]
    · rw [hnext, Call.id, hrow]
      rfl
    · rw [hnext, Call.id, hrow]
      rfl

/-- A session that was blocked and given another token is found so, and no second one is added for its identifier. -/
theorem answers_of_rotated :
    let id : Uuid := ⟨Vector.replicate 16 1⟩
    let new : NewSession := ⟨id, .nil, "first", "agent", "192.0.2.7", Instant.epoch⟩
    let history : List (Instant × Call) :=
      [(Instant.epoch, .setBlocked id true), (Instant.epoch, .create new), (Instant.epoch, .setBlocked id true),
        (Instant.epoch, .replaceToken id "second"), (Instant.epoch, .setBlocked .nil false)]
    let next (call : Call) : Except StoreError Session := ((empty.run history).call Instant.epoch call).2
    next (.get id) = .ok ⟨id, .nil, "second", "agent", "192.0.2.7", true, Instant.epoch, Instant.epoch⟩ ∧
      next (.create new) = .error (.conflict ("session " ++ id.toString)) ∧
      next (.get .nil) = .error (.notFound ("session " ++ Uuid.nil.toString)) := by
  intro id new history next
  obtain ⟨-, hadded, -, -⟩ := answers_of_history history id Instant.epoch
  obtain ⟨hnever, -, -, -⟩ := answers_of_history history .nil Instant.epoch
  have hearlier : ∀ entry ∈ [(Instant.epoch, Call.setBlocked id true)], ¬entry.2.Creates id := by
    intro entry hentry
    obtain rfl := List.mem_singleton.1 hentry
    rintro ⟨other, h, -⟩
    cases h
  obtain ⟨hget, hcreate, -⟩ :=
    hadded [(Instant.epoch, .setBlocked id true)] Instant.epoch new _ rfl rfl hearlier
  refine ⟨hget, hcreate new rfl, ?_⟩
  have hnone : ∀ entry ∈ history, ¬entry.2.Creates .nil := by
    rintro entry hentry ⟨other, h, hid⟩
    simp only [history, List.mem_cons, List.not_mem_nil, or_false] at hentry
    rcases hentry with rfl | rfl | rfl | rfl | rfl
    all_goals cases h
    exact absurd hid (by decide)
  exact (hnever hnone).2 (.get .nil) rfl fun ⟨_, h, _⟩ => nomatch h

end Gatehouse.SessionStore
