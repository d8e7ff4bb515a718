import Mathlib
import Gatehouse.Proofs.Auth.Run
import Gatehouse.Proofs.Password.Hash

/-!
# The table of sessions

Each login that succeeds adds one session to the table, unblocked and for the refresh token of that login. Nothing else
adds one and nothing takes one away: the sessions after a run are those before it, followed by those that its logins
opened, and no field of them changes but the blocked mark, which is set and never taken back
(`Flow.continues_run`).
-/

namespace Gatehouse

/-- The claims in a text of three parts, whoever wrote it. -/
def Claims.ofToken? (token : String) : Option Claims :=
  match Text.splitOn '.' token.toList with
  | [_, payload, _] => (Encoding.Base64.urlSafe.decode? payload).bind Claims.ofObject?
  | _ => none

/-- The claims in a token are those that it was made for, rounded down to whole seconds. -/
theorem Claims.ofToken?_sign (maker : TokenMaker) (c : Claims) : Claims.ofToken? (maker.sign c) = some c.floor := by
  have hdot := Encoding.Base64.dot_not_mem_encode_urlSafe
  have hparts : Text.splitOn '.' (maker.sign c).toList =
      [Encoding.Base64.urlSafe.encode (Text.Utf8.encode TokenHeader.made),
        Encoding.Base64.urlSafe.encode (Text.Utf8.encode c.json.write),
        maker.signature (TokenMaker.signedPart c)] := by
    refine Text.splitOn_eq_three_iff.2 ⟨?_, hdot _, hdot _, hdot _⟩
    rw [TokenMaker.sign, String.toList_ofList, TokenMaker.signedPart, List.append_assoc, List.cons_append]
  rw [ofToken?, hparts]
  dsimp only
  rw [Encoding.Base64.decode?_encode Encoding.Base64.urlSafe_lawful, Option.bind_some, Claims.ofObject?_write]

/-- A session later on: the same but for the blocked mark, which is not taken back. -/
def Session.Continues (row row' : Session) : Prop :=
  ∃ blocked : Bool, row' = { row with isBlocked := blocked } ∧ (row.isBlocked = true → blocked = true)

namespace Session.Continues

variable {row row' row'' : Session}

/-- A session goes on as it is. -/
theorem refl (row : Session) : row.Continues row := ⟨row.isBlocked, rfl, fun h => h⟩

/-- A session that is blocked goes on. -/
theorem block (row : Session) : row.Continues { row with isBlocked := true } := ⟨true, rfl, fun _ => rfl⟩

/-- What a session becomes in two steps, it becomes. -/
theorem trans (h : row.Continues row') (h' : row'.Continues row'') : row.Continues row'' := by
  obtain ⟨blocked, rfl, hkept⟩ := h
  obtain ⟨blocked', rfl, hkept'⟩ := h'
  exact ⟨blocked', rfl, fun hblocked => hkept' (hkept hblocked)⟩

/-- Sessions go on as they are. -/
theorem all_refl (rows : List Session) : List.Forall₂ Session.Continues rows rows :=
  List.forall₂_same.2 fun row _ => refl row

/-- What sessions become in two steps, they become. -/
theorem all_trans {rows rows' rows'' : List Session} (h : List.Forall₂ Session.Continues rows rows')
    (h' : List.Forall₂ Session.Continues rows' rows'') : List.Forall₂ Session.Continues rows rows'' := by
  induction h generalizing rows'' with
  | nil => exact h'
  | cons hrow _ ih =>
    cases h' with
    | cons hrow' hrest => exact .cons (hrow.trans hrow') (ih hrest)

/-- What a session keeps as it goes on holds of all of them if it did before. -/
theorem forall_mem {rows rows' : List Session} {p : Session → Prop} (h : List.Forall₂ Session.Continues rows rows')
    (hkeep : ∀ row row', row.Continues row' → p row → p row') (hrows : ∀ row ∈ rows, p row) : ∀ row ∈ rows', p row := by
  induction h with
  | nil => exact hrows
  | @cons row row' rows rows' hrow _ ih =>
    obtain ⟨hfirst, hrest⟩ := List.forall_mem_cons.1 hrows
    exact List.forall_mem_cons.2 ⟨hkeep row row' hrow hfirst, ih hrest⟩

/-- Sessions that go on keep their identifiers. -/
theorem map_id_eq {rows rows' : List Session} (h : List.Forall₂ Session.Continues rows rows') :
    rows'.map (·.id) = rows.map (·.id) := by
  induction h with
  | nil => rfl
  | cons hrow _ ih =>
    obtain ⟨blocked, rfl, -⟩ := hrow
    rw [List.map_cons, List.map_cons, ih]

end Session.Continues

namespace SessionStore

/-- The sessions after one was blocked, if it was. -/
theorem continues_setBlocked {store store' : SessionStore} {id : Uuid} {session : Session}
    (h : store.setBlocked id true = .ok (session, store')) :
    List.Forall₂ Session.Continues store.sessions store'.sessions := by
  obtain ⟨-, rfl⟩ := update_eq_ok_iff.1 h
  refine List.forall₂_map_right_iff.2 (List.forall₂_same.2 fun row _ => ?_)
  split_ifs
  · exact Session.Continues.block row
  · exact Session.Continues.refl row

end SessionStore

namespace Auth

namespace Flow

variable {flow : Flow} {now : Instant} {s : State}

/-! ## What a run adds -/

/-- The sessions that an event adds: one when it is a login that succeeds, and else none. -/
def added (flow : Flow) (now : Instant) (s : State) : Event → List Session
  | .login request =>
    match (flow.login now s request).2 with
    | .ok o => [SessionStore.opened now (newSession request o)]
    | .error _ => []
  | .refresh _ | .logout _ | .users _ => []

/-- An event adds nothing, or it is a login that opens the session that it adds. -/
theorem added_cases (event : Event) :
    flow.added now s event = [] ∨ ∃ request o, flow.Opens now s request (flow.step now s event) o ∧
      flow.added now s event = [SessionStore.opened now (newSession request o)] := by
  cases event with
  | login request =>
    unfold added step
    dsimp only
    generalize hlogin : flow.login now s request = answer
    obtain ⟨s', _ | o⟩ := answer
    · exact Or.inl rfl
    · exact Or.inr ⟨request, o, opens_of_login hlogin, rfl⟩
  | _ => exact Or.inl rfl

/-- The sessions that a run adds, in the order of its logins. -/
def addedIn (flow : Flow) (s : State) : List (Instant × Event) → List Session
  | [] => []
  | (now, event) :: rest => flow.added now s event ++ addedIn flow (flow.step now s event) rest

/-- After an event the sessions are those before it, with what it adds. -/
theorem continues_step (event : Event) :
    List.Forall₂ Session.Continues (s.sessions.sessions ++ flow.added now s event)
      (flow.step now s event).sessions.sessions := by
  cases event with
  | login request =>
    unfold added step
    dsimp only
    generalize hlogin : flow.login now s request = answer
    obtain ⟨s', _ | o⟩ := answer
    · rw [(stores_of_login_error hlogin).2, List.append_nil]
      exact Session.Continues.all_refl _
    · obtain ⟨session, hcreate, -⟩ := (opens_of_login hlogin).create_eq
      obtain ⟨-, -, hsessions⟩ := SessionStore.create_eq_ok_iff.1 hcreate
      rw [hsessions]
      exact Session.Continues.all_refl _
  | refresh token =>
    unfold added step
    dsimp only
    generalize hrefresh : flow.refresh now s token = answer
    obtain ⟨s', outcome⟩ := answer
    rw [(stores_of_refresh hrefresh).2, List.append_nil]
    exact Session.Continues.all_refl _
  | logout token =>
    unfold added step
    dsimp only
    generalize hlogout : flow.logout now s token = answer
    obtain ⟨s', e | ⟨⟩⟩ := answer
    · rw [state_of_logout_error hlogout, List.append_nil]
      exact Session.Continues.all_refl _
    · obtain ⟨c, hblocks⟩ := blocks_of_logout hlogout
      obtain ⟨session, hset⟩ := hblocks.setBlocked_eq
      rw [List.append_nil]
      exact SessionStore.continues_setBlocked hset
  | users change =>
    rw [added, List.append_nil]
    exact Session.Continues.all_refl _

/-- After a run the sessions are those before it, with what the run adds. -/
theorem continues_run (events : List (Instant × Event)) :
    List.Forall₂ Session.Continues (s.sessions.sessions ++ flow.addedIn s events)
      (flow.run s events).sessions.sessions := by
  induction events generalizing s with
  | nil =>
    rw [addedIn, List.append_nil]
    exact Session.Continues.all_refl _
  | cons e events ih =>
    obtain ⟨now, event⟩ := e
    rw [run_cons, addedIn, ← List.append_assoc]
    -- What was there goes on through the event, and from there with what comes after it.
    exact Session.Continues.all_trans (List.rel_append (continues_step event) (Session.Continues.all_refl _)) ih

/-! ## Sessions and their tokens -/

/-- The token of a session is the flow's own, and holds claims that say the same as the session: it was issued when the
session was added, under its identifier, for its user and without roles, until its expiry. -/
structure Backs (flow : Flow) (row : Session) (c : Claims) : Prop where
  issue_eq : flow.maker.issue row.createdAt row.id row.userId [] flow.refreshLifetime = .ok (row.refreshToken, c)
  ofToken_eq : Claims.ofToken? row.refreshToken = some c
  id_eq : c.id = row.id
  userId_eq : c.userId = row.userId
  roles_eq : c.roles = []
  expireAt_eq : c.expireAt = row.expiresAt

/-- A session keeps its token with its claims. -/
theorem Backs.of_continues {row row' : Session} {c : Claims} (h : flow.Backs row c) (hrow : row.Continues row') :
    flow.Backs row' c := by
  obtain ⟨blocked, rfl, -⟩ := hrow
  obtain ⟨hissue, hof, hid, huser, hroles, hexpire⟩ := h
  exact ⟨hissue, hof, hid, huser, hroles, hexpire⟩

/-- What is issued for a whole number of seconds backs the session that is opened for it. -/
theorem backs_opened {request : LoginRequest} {o : LoginOutcome} {s' : State} (h : flow.Opens now s request s' o)
    (hwhole : flow.refreshLifetime.nanoseconds % 1000000000 = 0) :
    flow.Backs (SessionStore.opened now (newSession request o)) o.refreshClaims := by
  have hissue := h.refresh_eq
  obtain ⟨htoken, -⟩ := TokenMaker.issue_eq_ok_iff.1 hissue
  obtain ⟨hid, huser, hroles, -⟩ := TokenMaker.claims_of_issue hissue
  have hof : Claims.ofToken? o.refreshToken = some o.refreshClaims := by
    rw [htoken, Claims.ofToken?_sign, TokenMaker.floor_of_issue hissue hwhole]
  rw [← hid] at hissue
  exact ⟨hissue, hof, rfl, huser, hroles, rfl⟩

/-- The sessions that an event adds are unblocked and have their tokens behind them. -/
theorem backs_of_mem_added {event : Event} {row : Session} (hwhole : flow.refreshLifetime.nanoseconds % 1000000000 = 0)
    (hrow : row ∈ flow.added now s event) : row.isBlocked = false ∧ ∃ c, flow.Backs row c := by
  rcases flow.added_cases event with hnone | ⟨request, o, hopens, hone⟩
  · rw [hnone] at hrow
    exact absurd hrow List.not_mem_nil
  · rw [hone] at hrow
    obtain rfl := List.mem_singleton.1 hrow
    exact ⟨rfl, o.refreshClaims, backs_opened hopens hwhole⟩

/-- The sessions that a run adds are unblocked and have their tokens behind them. -/
theorem backs_of_mem_addedIn {events : List (Instant × Event)} {row : Session}
    (hwhole : flow.refreshLifetime.nanoseconds % 1000000000 = 0) (hrow : row ∈ flow.addedIn s events) :
    row.isBlocked = false ∧ ∃ c, flow.Backs row c := by
  induction events generalizing s with
  | nil => exact absurd hrow List.not_mem_nil
  | cons e events ih =>
    rcases List.mem_append.1 hrow with hfirst | hrest
    · exact backs_of_mem_added hwhole hfirst
    · exact ih hrest

/-! ## One session for each identifier -/

/-- What an event adds has a new identifier. -/
theorem nodup_step {event : Event} (h : (s.sessions.sessions.map (·.id)).Nodup) :
    ((flow.step now s event).sessions.sessions.map (·.id)).Nodup := by
  rw [Session.Continues.map_id_eq (continues_step event), List.map_append]
  rcases flow.added_cases event with hnone | ⟨request, o, hopens, hone⟩
  · rwa [hnone, List.map_nil, List.append_nil]
  · obtain ⟨session, hcreate, -⟩ := hopens.create_eq
    obtain ⟨hfree, -, -⟩ := SessionStore.create_eq_ok_iff.1 hcreate
    rw [SessionStore.get?_eq_none_iff] at hfree
    rw [hone]
    exact h.append (List.nodup_singleton _) (List.disjoint_singleton.2 hfree)

/-- Identifiers stand for one session each, after a run as before it. -/
theorem nodup_run {events : List (Instant × Event)} (h : (s.sessions.sessions.map (·.id)).Nodup) :
    ((flow.run s events).sessions.sessions.map (·.id)).Nodup := by
  induction events generalizing s with
  | nil => exact h
  | cons e events ih => exact ih (nodup_step h)

/-! ## Runs from an empty table -/

/-- After a run of one login that succeeds the state is the one after the login. -/
theorem run_login {request : LoginRequest} {o : LoginOutcome} {s' : State}
    (h : flow.login now s request = (s', .ok o)) : flow.run s [(now, .login request)] = s' := by
  rw [run_cons, run, step, h]

/-- In every run from an empty table of sessions, with refresh tokens that last for a whole number of seconds, each
session has its token behind it: issued by the flow for the user of the session and without roles, with the identifier
and the expiry of the session, as the text of the token says itself. No two sessions share an identifier. A login that
succeeds adds one session, at the end. As the run goes on, what its logins add is unblocked at first, nothing else adds
sessions, none is lost, and none is changed but for the blocked mark, which is not taken back. -/
theorem sessions_run (hwhole : flow.refreshLifetime.nanoseconds % 1000000000 = 0) (users : UserStore)
    (before : List (Instant × Event)) :
    (∀ row ∈ (flow.run (.initial users) before).sessions.sessions, ∃ c, flow.Backs row c) ∧
      ((flow.run (.initial users) before).sessions.sessions.map (·.id)).Nodup ∧
      (∀ now request s' o, flow.login now (flow.run (.initial users) before) request = (s', .ok o) →
        s'.sessions.sessions =
          (flow.run (.initial users) before).sessions.sessions ++ [SessionStore.opened now (newSession request o)]) ∧
      ∀ after, (∀ row ∈ flow.addedIn (flow.run (.initial users) before) after, row.isBlocked = false) ∧
        List.Forall₂ Session.Continues
          ((flow.run (.initial users) before).sessions.sessions ++
            flow.addedIn (flow.run (.initial users) before) after)
          (flow.run (.initial users) (before ++ after)).sessions.sessions := by
  refine ⟨?_, ?_, ?_, ?_⟩
  · -- Every session goes on from one that the run added.
    refine Session.Continues.forall_mem (continues_run before) ?_ ?_
    · rintro row row' hrow ⟨c, hc⟩
      exact ⟨c, hc.of_continues hrow⟩
    · intro row hrow
      exact (backs_of_mem_addedIn hwhole hrow).2
  · exact nodup_run List.nodup_nil
  · intro now request s' o hlogin
    obtain ⟨session, hcreate, -⟩ := (opens_of_login hlogin).create_eq
    obtain ⟨-, -, hsessions⟩ := SessionStore.create_eq_ok_iff.1 hcreate
    rw [hsessions]
  · intro after
    rw [run_append]
    exact ⟨fun row hrow => (backs_of_mem_addedIn hwhole hrow).1, continues_run after⟩

end Flow

/-! ### A run -/

namespace Sample

/-- A flow over stores that do not fail, with identifiers of equal bytes. -/
def flow : Flow :=
  { maker := ⟨List.replicate 32 0x2A, "gate", "players", rfl⟩, ids := fun n => ⟨Vector.replicate 16 (UInt8.ofNat n)⟩
    faults := {}, accessLifetime := { nanoseconds := 600000000000 }
    refreshLifetime := { nanoseconds := 7200000000000 } }

/-- A user. -/
def alice : User := ⟨.nil, "alice", Password.hashText (List.replicate 16 0x2A) "secret", "", "", Instant.epoch⟩

/-- A store with one user, who has a role. -/
def users : UserStore := ⟨[alice], [(alice.id, [Role.user])]⟩

/-- What the user logs in with. -/
def request : LoginRequest := ⟨"alice", "secret", "", ""⟩

/-- The password is that of the user. -/
theorem verify_request : Password.verify request.password alice.passwordHash = .ok () :=
  Password.verify_hashText (by decide) (by decide) "secret"

/-- The user can log in at the epoch. -/
theorem login_succeeds :
    ∃ s o, flow.login Instant.epoch (.initial users) request = (s, .ok o) ∧
      o.accessClaims.expireAt = { seconds := 600, nanos := 0 } := by
  obtain ⟨s, o, hlogin, -, haccess, -⟩ :=
    @Flow.login_succeeds flow Instant.epoch (.initial users) request alice { seconds := 600, nanos := 0 }
      { seconds := 7200, nanos := 0 } rfl rfl verify_request (by decide) (by decide) rfl
  exact ⟨s, o, hlogin, haccess⟩

/-- The first 256 identifiers are different. -/
theorem injOn_ids : Set.InjOn flow.ids (Set.Iio 256) := by
  intro a ha b hb h
  have hbyte : UInt8.ofNat a = UInt8.ofNat b := by
    have hfirst := congrArg (fun id : Uuid => id.bytes[0]) h
    simpa [flow] using hfirst
  have hnat := congrArg UInt8.toNat hbyte
  rwa [UInt8.toNat_ofNat_of_lt' ha, UInt8.toNat_ofNat_of_lt' hb] at hnat

/-- After one login there is one session, which is not blocked and has its token behind it. -/
theorem sessions_run_of_one_login :
    ∃ row c, (flow.run (.initial users) [(Instant.epoch, .login request)]).sessions.sessions = [row] ∧
      row.isBlocked = false ∧ flow.Backs row c := by
  obtain ⟨s, o, hlogin, -⟩ := login_succeeds
  have hwhole : flow.refreshLifetime.nanoseconds % 1000000000 = 0 := by decide
  obtain ⟨-, -, hadds, -⟩ := Flow.sessions_run hwhole users []
  obtain ⟨hbacked, -, -, -⟩ := Flow.sessions_run hwhole users [(Instant.epoch, .login request)]
  have hrun : (flow.run (.initial users) [(Instant.epoch, .login request)]).sessions.sessions =
      [SessionStore.opened Instant.epoch (Flow.newSession request o)] := by
    rw [Flow.run_login hlogin, hadds _ _ _ _ hlogin]
    rfl
  rw [hrun] at hbacked
  obtain ⟨c, hc⟩ := hbacked _ (List.mem_singleton.2 rfl)
  exact ⟨_, c, hrun, rfl, hc⟩

end Sample

end Auth

end Gatehouse
