import Mathlib
import Gatehouse.Proofs.Auth.Run
import Gatehouse.Proofs.Identity.Seed
import Gatehouse.Proofs.Settings.Checked

/-!
# Histories of the users

A history is a list of changes of the users, each at its time: insertions and roles that are set, in any order and for
any names and identifiers. A name stands for the first user that was entered under it, later insertions of the name come
to nothing, and an identifier has the roles that it was given last (`UserStore.reflects_run`). The users that are there
from the start are a history of insertions, which any later changes continue (`Startup.reflects_of_seed`).
-/

namespace Gatehouse

namespace UserStore

/-- The user of what is entered under an identifier. -/
def enrolled (id : Uuid) (now : Instant) (new : NewUser) : User :=
  { id := id, username := new.username, passwordHash := new.passwordHash, name := new.name, email := new.email,
    createdAt := now }

namespace Change

/-- The name that a change enters, if it is an insertion. -/
def username? : Change → Option String
  | .insert _ new _ => some new.username
  | .setRoles .. => none

/-- The identifier that a change gives roles. -/
def id : Change → Uuid
  | .insert id _ _ | .setRoles id _ => id

/-- The roles that a change gives. -/
def roles : Change → List Role
  | .insert _ _ roles | .setRoles _ roles => roles

end Change

/-- A name is entered in a history: there is an insertion of it, whether it was the first one or came to nothing. -/
def Entered (history : List (Instant × Change)) (username : String) : Prop :=
  ∃ entry ∈ history, entry.2.username? = some username

/-- A change takes effect after a history, unless it is an insertion of a name that was entered before. -/
def Change.TakesEffect (history : List (Instant × Change)) (change : Change) : Prop :=
  ∀ username, change.username? = some username → ¬Entered history username

/-- A user is the first that was entered under its name. -/
def FirstEntered (history : List (Instant × Change)) (user : User) : Prop :=
  ∃ before now id new roles after, history = before ++ (now, .insert id new roles) :: after ∧
    ¬Entered before new.username ∧ user = enrolled id now new

/-- After a history, none of some further changes gives an identifier roles. -/
def Silent (id : Uuid) (history further : List (Instant × Change)) : Prop :=
  ∀ before now change after, further = before ++ (now, change) :: after →
    change.TakesEffect (history ++ before) → change.id ≠ id

/-- The roles that an identifier was given last: a change that took effect gave them, and no change after it did. -/
def LastGiven (history : List (Instant × Change)) (id : Uuid) (roles : List Role) : Prop :=
  ∃ before now change after, history = before ++ (now, change) :: after ∧ change.TakesEffect before ∧
    change.id = id ∧ change.roles = roles ∧ Silent id (before ++ [(now, change)]) after

/-- The store after a history. -/
def run (store : UserStore) : List (Instant × Change) → UserStore
  | [] => store
  | (now, change) :: rest => run (store.apply now change) rest

variable {store : UserStore} {now : Instant} {id : Uuid} {username : String} {history : List (Instant × Change)}

/-- A history goes on where the one before it ended. -/
theorem run_append (before after : List (Instant × Change)) :
    store.run (before ++ after) = (store.run before).run after := by
  induction before generalizing store with
  | nil => rfl
  | cons entry before ih =>
    obtain ⟨now, change⟩ := entry
    exact ih

/-- The last change of a history is applied to what the others leave. -/
theorem run_concat (history : List (Instant × Change)) (now : Instant) (change : Change) :
    store.run (history ++ [(now, change)]) = (store.run history).apply now change := by
  rw [run_append]
  rfl

/-! ## One change -/

/-- A lookup answers the user of a name, or that there is none. -/
theorem find_eq (store : UserStore) (username : String) :
    store.find username = (store.get? username).elim (.error (.notFound ("user " ++ username))) .ok := by
  unfold find
  cases store.get? username <;> rfl

/-- An insertion under a taken name is a conflict. -/
theorem insert_of_get?_some {new : NewUser} {user : User} (h : store.get? new.username = some user)
    (roles : List Role) : store.insert id now new roles = .error (.conflict ("username " ++ new.username)) := by
  rw [insert, h]

/-- An insertion under a free name adds the user and its roles. -/
theorem insert_of_get?_none {new : NewUser} (h : store.get? new.username = none) (roles : List Role) :
    store.insert id now new roles =
      .ok (enrolled id now new, { store with users := store.users ++ [enrolled id now new] }.setRoles id roles) := by
  rw [insert, h]
  rfl

/-- An insertion under a taken name changes nothing. -/
theorem apply_insert_of_get?_some {new : NewUser} {user : User} (h : store.get? new.username = some user)
    (roles : List Role) : store.apply now (.insert id new roles) = store := by
  rw [apply, insert_of_get?_some h]

/-- What an insertion under a free name leaves. -/
theorem apply_insert_of_get?_none {new : NewUser} (h : store.get? new.username = none) (roles : List Role) :
    store.apply now (.insert id new roles) =
      { store with users := store.users ++ [enrolled id now new] }.setRoles id roles := by
  rw [apply, insert_of_get?_none h]

/-- What is found after an insertion under a free name: whom the store had, and else the new user under its name. -/
theorem get?_apply_insert {new : NewUser} (h : store.get? new.username = none) (roles : List Role)
    (username : String) :
    (store.apply now (.insert id new roles)).get? username =
      (store.get? username).or (if new.username = username then some (enrolled id now new) else none) := by
  have hnew : [enrolled id now new].find? (·.username = username) =
      if new.username = username then some (enrolled id now new) else none := by
    by_cases hname : new.username = username
    · rw [if_pos hname]
      exact List.find?_cons_of_pos (decide_eq_true hname)
    · rw [if_neg hname]
      exact List.find?_cons_of_neg fun hsame => hname (of_decide_eq_true hsame)
  rw [apply_insert_of_get?_none h, get?, setRoles, List.find?_append, hnew]
  rfl

/-- A user that is there is found after every change. -/
theorem get?_apply_of_some {user : User} (huser : store.get? username = some user) (now : Instant) (change : Change) :
    (store.apply now change).get? username = some user := by
  cases change with
  | setRoles id roles => exact huser
  | insert id new roles =>
    cases hget : store.get? new.username with
    | some other => rw [apply_insert_of_get?_some hget, huser]
    | none => rw [get?_apply_insert hget, huser, Option.some_or]

/-- A user that is inserted under a free name is found. -/
theorem get?_apply_insert_self {new : NewUser} (h : store.get? new.username = none) (roles : List Role) :
    (store.apply now (.insert id new roles)).get? new.username = some (enrolled id now new) := by
  rw [get?_apply_insert h, h, Option.none_or, if_pos rfl]

/-- A change that does not enter a name leaves it free. -/
theorem get?_apply_of_none {change : Change} (hnone : store.get? username = none)
    (h : change.username? ≠ some username) : (store.apply now change).get? username = none := by
  cases change with
  | setRoles id roles => exact hnone
  | insert id new roles =>
    have hname : new.username ≠ username := fun hname => h (congrArg some hname)
    cases hget : store.get? new.username with
    | some other => rw [apply_insert_of_get?_some hget, hnone]
    | none => rw [get?_apply_insert hget, hnone, Option.none_or, if_neg hname]

/-- Entries that were taken out are not found, and all others as before. -/
theorem lookup_filter_ne {α : Type} (entries : List (Uuid × α)) (id other : Uuid) :
    (entries.filter (·.1 ≠ id)).lookup other = if other = id then none else entries.lookup other := by
  induction entries with
  | nil => simp
  | cons entry entries ih =>
    obtain ⟨key, a⟩ := entry
    by_cases hkey : key = id
    · rw [List.filter_cons_of_neg (by simpa using hkey), ih, List.lookup_cons]
      by_cases hother : other = id
      · rw [if_pos hother, if_pos hother]
      · have hne : (other == key) = false := beq_eq_false_iff_ne.2 (hkey ▸ hother)
        rw [if_neg hother, if_neg hother, hne]
    · rw [List.filter_cons_of_pos (by simpa using hkey), List.lookup_cons, List.lookup_cons, ih]
      by_cases hother : other = id
      · have hne : (other == key) = false := beq_eq_false_iff_ne.2 (hother ▸ Ne.symm hkey)
        rw [if_pos hother, if_pos hother, hne]
      · rw [if_neg hother, if_neg hother]

/-- The roles that were set are those of the identifier, and every other identifier keeps its roles. -/
theorem lookup_setRoles (store : UserStore) (id : Uuid) (roles : List Role) (other : Uuid) :
    (store.setRoles id roles).roles.lookup other = if id = other then some roles else store.roles.lookup other := by
  rw [setRoles, List.lookup_cons, lookup_filter_ne]
  by_cases hother : id = other
  · rw [if_pos hother, beq_iff_eq.2 hother.symm]
  · rw [if_neg hother, if_neg (Ne.symm hother), beq_eq_false_iff_ne.2 (Ne.symm hother)]

/-! ## Users -/

/-- A name is entered in a longer history, if it was before or by the last change. -/
theorem entered_concat {change : Change} :
    Entered (history ++ [(now, change)]) username ↔ Entered history username ∨ change.username? = some username := by
  simp [Entered, or_and_right, exists_or]

/-- A user that is there is found after every history. -/
theorem get?_run_of_some {user : User} (huser : store.get? username = some user) (history : List (Instant × Change)) :
    (store.run history).get? username = some user := by
  induction history generalizing store with
  | nil => exact huser
  | cons entry history ih =>
    obtain ⟨now, change⟩ := entry
    exact ih (get?_apply_of_some huser now change)

/-- A name that is not entered stays free. -/
theorem get?_run_of_not_entered (h : ¬Entered history username) : (empty.run history).get? username = none := by
  induction history using List.reverseRecOn with
  | nil => rfl
  | append_singleton history entry ih =>
    obtain ⟨now, change⟩ := entry
    obtain ⟨hbefore, hlast⟩ := not_or.1 fun he => h (entered_concat.2 he)
    rw [run_concat]
    exact get?_apply_of_none (ih hbefore) hlast

/-- The first user that was entered under a name is found under it. -/
theorem get?_run_of_firstEntered {user : User} (h : FirstEntered history user) :
    (empty.run history).get? user.username = some user := by
  obtain ⟨before, now, id, new, roles, after, rfl, hfirst, rfl⟩ := h
  rw [run_append]
  exact get?_run_of_some (get?_apply_insert_self (get?_run_of_not_entered hfirst) roles) after

/-- Of the users that were entered under a name, one was the first. -/
theorem exists_firstEntered (h : Entered history username) :
    ∃ user, FirstEntered history user ∧ user.username = username := by
  have hsome : (history.find? fun entry => decide (entry.2.username? = some username)).isSome := by
    rw [List.find?_isSome]
    simpa [Entered] using h
  obtain ⟨⟨now, change⟩, hfound⟩ := Option.isSome_iff_exists.1 hsome
  obtain ⟨hname, before, after, hsplit, hearlier⟩ := List.find?_eq_some_iff_append.1 hfound
  have hfirst : ¬Entered before username := by
    rintro ⟨entry, hentry, hsame⟩
    simpa [hsame] using hearlier entry hentry
  cases change with
  | setRoles id roles => simp [Change.username?] at hname
  | insert id new roles =>
    obtain rfl : new.username = username := by simpa [Change.username?] using hname
    exact ⟨enrolled id now new, ⟨before, now, id, new, roles, after, hsplit, hfirst, rfl⟩, rfl⟩

/-- A name is taken after a history exactly when it was entered. -/
theorem get?_run_eq_none_iff : (empty.run history).get? username = none ↔ ¬Entered history username := by
  refine ⟨fun hnone hentered => ?_, get?_run_of_not_entered⟩
  obtain ⟨user, hfirst, rfl⟩ := exists_firstEntered hentered
  rw [get?_run_of_firstEntered hfirst] at hnone
  cases hnone

/-- After a history a name stands for the first user that was entered under it. -/
theorem get?_run_eq_some_iff {user : User} :
    (empty.run history).get? username = some user ↔ FirstEntered history user ∧ user.username = username := by
  constructor
  · intro hget
    have hentered : Entered history username := by
      by_contra hnever
      rw [get?_run_of_not_entered hnever] at hget
      cases hget
    obtain ⟨first, hfirst, rfl⟩ := exists_firstEntered hentered
    obtain rfl := Option.some.inj ((get?_run_of_firstEntered hfirst).symm.trans hget)
    exact ⟨hfirst, rfl⟩
  · rintro ⟨hfirst, rfl⟩
    exact get?_run_of_firstEntered hfirst

/-! ## Roles -/

/-- Setting roles takes effect at any time. -/
theorem takesEffect_setRoles (history : List (Instant × Change)) (id : Uuid) (roles : List Role) :
    (Change.setRoles id roles).TakesEffect history := by
  intro username hname
  cases hname

/-- A change that does not take effect changes nothing. -/
theorem apply_of_not_takesEffect {change : Change} (h : ¬change.TakesEffect history) :
    (empty.run history).apply now change = empty.run history := by
  cases change with
  | setRoles id roles => exact absurd (takesEffect_setRoles history id roles) h
  | insert id new roles =>
    have hentered : Entered history new.username := by
      by_contra hnever
      refine h fun username hname => ?_
      rwa [← Option.some.inj hname]
    obtain ⟨user, hget⟩ := Option.ne_none_iff_exists'.1 fun hnone => get?_run_eq_none_iff.1 hnone hentered
    exact apply_insert_of_get?_some hget roles

/-- A change that takes effect gives its identifier its roles, and does not matter to other identifiers. -/
theorem lookup_apply_of_takesEffect {change : Change} (h : change.TakesEffect history) (id : Uuid) :
    ((empty.run history).apply now change).roles.lookup id =
      if change.id = id then some change.roles else (empty.run history).roles.lookup id := by
  cases change with
  | setRoles other roles => exact lookup_setRoles _ other roles id
  | insert other new roles =>
    rw [apply_insert_of_get?_none (get?_run_of_not_entered (h _ rfl)), lookup_setRoles]
    rfl

/-- No changes are silent on every identifier. -/
theorem silent_nil (id : Uuid) (history : List (Instant × Change)) : Silent id history [] := by
  intro before now change after hsplit
  simp at hsplit

/-- Changes are silent on an identifier if the first is, and those after it are. -/
theorem silent_cons {change : Change} {further : List (Instant × Change)} :
    Silent id history ((now, change) :: further) ↔
      (change.TakesEffect history → change.id ≠ id) ∧ Silent id (history ++ [(now, change)]) further := by
  constructor
  · intro h
    refine ⟨fun htakes => h [] now change further rfl (by rwa [List.append_nil]), ?_⟩
    intro before now' change' after hsplit htakes
    refine h ((now, change) :: before) now' change' after (by rw [hsplit, List.cons_append]) ?_
    rwa [List.append_assoc, List.singleton_append] at htakes
  · rintro ⟨hfirst, hrest⟩ before now' change' after hsplit htakes
    cases before with
    | nil =>
      obtain ⟨hentry, -⟩ := List.cons.inj hsplit
      obtain ⟨-, rfl⟩ := Prod.mk.inj hentry
      rw [List.append_nil] at htakes
      exact hfirst htakes
    | cons entry before =>
      obtain ⟨rfl, hfurther⟩ := List.cons.inj hsplit
      refine hrest before now' change' after hfurther ?_
      rwa [List.append_assoc, List.singleton_append]

/-- While changes are silent on an identifier, it keeps its roles. -/
theorem lookup_run_of_silent {further : List (Instant × Change)} (h : Silent id history further) :
    (empty.run (history ++ further)).roles.lookup id = (empty.run history).roles.lookup id := by
  induction further generalizing history with
  | nil => rw [List.append_nil]
  | cons entry further ih =>
    obtain ⟨now, change⟩ := entry
    obtain ⟨hfirst, hrest⟩ := silent_cons.1 h
    have hkept : (empty.run (history ++ [(now, change)])).roles.lookup id = (empty.run history).roles.lookup id := by
      rw [run_concat]
      by_cases htakes : change.TakesEffect history
      · rw [lookup_apply_of_takesEffect htakes, if_neg (hfirst htakes)]
      · rw [apply_of_not_takesEffect htakes]
    rw [← hkept, ← ih hrest, List.append_assoc, List.singleton_append]

/-- The roles that an identifier was given last are found. -/
theorem lookup_run_of_lastGiven {roles : List Role} (h : LastGiven history id roles) :
    (empty.run history).roles.lookup id = some roles := by
  obtain ⟨before, now, change, after, rfl, htakes, rfl, rfl, hsilent⟩ := h
  have hafter := lookup_run_of_silent hsilent
  rw [List.append_assoc, List.singleton_append] at hafter
  rw [hafter, run_concat, lookup_apply_of_takesEffect htakes, if_pos rfl]

/-- An identifier was given roles last by one of some changes, or they are all silent on it. -/
theorem silent_or_lastGiven (id : Uuid) (history further : List (Instant × Change)) :
    Silent id history further ∨ ∃ before now change after, further = before ++ (now, change) :: after ∧
      change.TakesEffect (history ++ before) ∧ change.id = id ∧
      Silent id (history ++ before ++ [(now, change)]) after := by
  induction further generalizing history with
  | nil => exact Or.inl (silent_nil id history)
  | cons entry further ih =>
    obtain ⟨now, change⟩ := entry
    rcases ih (history ++ [(now, change)]) with hsilent | ⟨before, now', change', after, rfl, htakes, hid, hsilent⟩
    · by_cases hgives : change.TakesEffect history ∧ change.id = id
      · refine Or.inr ⟨[], now, change, further, rfl, ?_, hgives.2, ?_⟩
        · rw [List.append_nil]
          exact hgives.1
        · rwa [List.append_nil]
      · exact Or.inl (silent_cons.2 ⟨not_and.1 hgives, hsilent⟩)
    · refine Or.inr ⟨(now, change) :: before, now', change', after, rfl, ?_, hid, ?_⟩
      · rwa [List.append_assoc, List.singleton_append] at htakes
      · rwa [List.append_assoc history, List.singleton_append] at hsilent

/-- After a history an identifier has the roles that it was given last, and none if it was never given any. -/
theorem rolesOf_run_eq_iff {roles : List Role} :
    (empty.run history).rolesOf id = roles ↔ LastGiven history id roles ∨ Silent id [] history ∧ roles = [] := by
  have hgiven {roles : List Role} (h : LastGiven history id roles) : (empty.run history).rolesOf id = roles := by
    rw [rolesOf, lookup_run_of_lastGiven h, Option.getD_some]
  have hnone (h : Silent id [] history) : (empty.run history).rolesOf id = [] := by
    have hlookup := lookup_run_of_silent h
    rw [List.nil_append] at hlookup
    rw [rolesOf, hlookup]
    rfl
  constructor
  · rintro rfl
    rcases silent_or_lastGiven id [] history with hsilent | ⟨before, now, change, after, hsplit, htakes, hid, hsilent⟩
    · exact Or.inr ⟨hsilent, hnone hsilent⟩
    · rw [List.nil_append] at htakes hsilent
      have hlast : LastGiven history id change.roles :=
        ⟨before, now, change, after, hsplit, htakes, hid, rfl, hsilent⟩
      rw [hgiven hlast]
      exact Or.inl hlast
  · rintro (h | ⟨h, rfl⟩)
    · exact hgiven h
    · exact hnone h

/-! ## What a store shows of a history -/

/-- A store shows what a history made of it. A name stands for the first user that was entered under it, and for nobody
if it was not entered. An identifier has the roles that it was given last, in their order, and none if it was never
given any. An insertion of a name that was entered is a conflict, which changes nothing, and every other insertion
succeeds with the user that is found from then on. -/
structure Reflects (store : UserStore) (history : List (Instant × Change)) : Prop where
  find_eq_ok_iff : ∀ {username user}, store.find username = .ok user ↔
    FirstEntered history user ∧ user.username = username
  find_eq_error_iff : ∀ {username e}, store.find username = .error e ↔
    ¬Entered history username ∧ e = .notFound ("user " ++ username)
  rolesOf_eq_iff : ∀ {id roles}, store.rolesOf id = roles ↔
    LastGiven history id roles ∨ Silent id [] history ∧ roles = []
  insert_of_entered : ∀ {id now new roles}, Entered history new.username →
    store.insert id now new roles = .error (.conflict ("username " ++ new.username)) ∧
      store.apply now (.insert id new roles) = store
  insert_of_not_entered : ∀ {id now new roles}, ¬Entered history new.username →
    store.insert id now new roles = .ok (enrolled id now new, store.apply now (.insert id new roles))

/-- After every history the store shows it. -/
theorem reflects_run (history : List (Instant × Change)) : (empty.run history).Reflects history where
  find_eq_ok_iff {username user} := by
    rw [find_eq, ← get?_run_eq_some_iff]
    cases (empty.run history).get? username <;> simp
  find_eq_error_iff {username e} := by
    rw [find_eq, ← get?_run_eq_none_iff]
    cases (empty.run history).get? username <;> simp [eq_comm]
  rolesOf_eq_iff := rolesOf_run_eq_iff
  insert_of_entered {id now new roles} hentered := by
    obtain ⟨user, hget⟩ := Option.ne_none_iff_exists'.1 fun hnone => get?_run_eq_none_iff.1 hnone hentered
    exact ⟨insert_of_get?_some hget roles, apply_insert_of_get?_some hget roles⟩
  insert_of_not_entered {id now new roles} hnever := by
    have hget := get?_run_of_not_entered hnever
    rw [insert_of_get?_none hget, apply_insert_of_get?_none hget]

/-- Users that are all entered are a history of insertions, each at a reading of the clock. -/
theorem run_of_seed {clock : Clock} {store' : UserStore} {users : List (Uuid × NewUser × List Role)}
    (h : seed clock store users = .ok store') :
    store.run (users.zipIdx.map fun ((id, new, roles), i) => (clock.reading i, .insert id new roles)) = store' := by
  induction users generalizing clock store with
  | nil => exact Except.ok.inj h
  | cons entry users ih =>
    obtain ⟨id, new, roles⟩ := entry
    rw [seed] at h
    cases hinsert : store.insert id (clock.reading 0) new roles with
    | error e =>
      rw [hinsert] at h
      cases h
    | ok inserted =>
      obtain ⟨user, next⟩ := inserted
      rw [hinsert] at h
      have happly : store.apply (clock.reading 0) (.insert id new roles) = next := by
        rw [apply, hinsert]
      rw [List.zipIdx_cons, List.map_cons, run, happly, List.zipIdx_succ, List.map_map]
      exact ih h

end UserStore

namespace Startup

/-- The insertions by which the users from the start are entered, each under a fresh identifier and at a reading of the
clock. -/
def insertions (start : Startup) (users : List Settings.SeedUser) : List (Instant × UserStore.Change) :=
  users.zipIdx.map fun (u, i) =>
    (start.clock.reading i, .insert (start.userIds i) u.toNewUser (u.roles.map fun role => ⟨role⟩))

/-- The insertions are those of the entries that the store is given. -/
theorem insertions_eq (start : Startup) (users : List Settings.SeedUser) :
    start.insertions users =
      (start.entries users).zipIdx.map fun ((id, new, roles), i) =>
        (start.clock.reading i, .insert id new roles) := by
  unfold insertions entries
  refine List.ext_getElem ?_ fun i hi hi' => ?_
  · simp only [List.length_map, List.length_zipIdx]
  · simp only [List.getElem_map, List.getElem_zipIdx, Nat.zero_add]

/-- The users from the start are entered exactly when their names are distinct, and otherwise the first name that
repeats an earlier one is a conflict. Once they are entered, and after any further insertions and roles that are set,
the store shows the whole history, which begins with their insertions. -/
theorem reflects_of_seed (start : Startup) (users : List Settings.SeedUser) :
    ((∃ store, start.seed users = .ok store) ↔ (users.map (·.username)).Nodup) ∧
    (∀ e, start.seed users = .error e ↔
      ∃ name, FirstRepeated (users.map (·.username)) name ∧ e = .conflict ("username " ++ name)) ∧
    ∀ store changes, start.seed users = .ok store →
      (store.run changes).Reflects (start.insertions users ++ changes) := by
  refine ⟨?_, fun e => ?_, fun store changes hseed => ?_⟩
  · rw [seed, UserStore.exists_seed_empty_iff, map_username_entries]
  · rw [seed, UserStore.seed_empty_eq_error_iff, map_username_entries]
  · rw [← UserStore.run_of_seed hseed, ← insertions_eq, ← UserStore.run_append]
    exact UserStore.reflects_run _

/-- Of two users from the start one is given other roles, and then another user of its name is inserted, which comes to
nothing: the name still stands for the first, and the identifier meant for the other has no roles. -/
theorem reflects_of_two_users :
    let start : Startup := ⟨Instant.epoch, fun n => ⟨Vector.replicate 16 n.toUInt8⟩, fun _ => .nil⟩
    let users : List Settings.SeedUser :=
      [⟨"alice", "first", "", "", ["user"]⟩, ⟨"bob", "hash", "", "", ["user"]⟩]
    let changes : List (Instant × UserStore.Change) :=
      [(Instant.epoch, .setRoles (start.userIds 0) [Role.admin, Role.user]),
        (Instant.epoch, .insert (start.userIds 2) ⟨"alice", "second", "", ""⟩ [Role.admin])]
    ∃ store, start.seed users = .ok store ∧
      (store.run changes).find "alice" = .ok ⟨start.userIds 0, "alice", "first", "", "", Instant.epoch⟩ ∧
      (store.run changes).rolesOf (start.userIds 0) = [Role.admin, Role.user] ∧
      (store.run changes).rolesOf (start.userIds 2) = [] := by
  intro start users changes
  obtain ⟨hseeded, -, hreflects⟩ := reflects_of_seed start users
  obtain ⟨store, hstore⟩ := hseeded.2 (by decide)
  have hshown := hreflects store changes hstore
  have hinsertions : start.insertions users =
      [(Instant.epoch, .insert (start.userIds 0) ⟨"alice", "first", "", ""⟩ [Role.user]),
        (Instant.epoch, .insert (start.userIds 1) ⟨"bob", "hash", "", ""⟩ [Role.user])] := rfl
  have hdistinct : start.userIds 0 ≠ start.userIds 2 ∧ start.userIds 1 ≠ start.userIds 2 := by decide
  rw [hinsertions] at hshown
  -- The second insertion of the name does not take effect after anything that begins with the first.
  have hrepeated (rest : List (Instant × UserStore.Change)) :
      ¬(UserStore.Change.insert (start.userIds 2) ⟨"alice", "second", "", ""⟩ [Role.admin]).TakesEffect
        ((Instant.epoch, .insert (start.userIds 0) ⟨"alice", "first", "", ""⟩ [Role.user]) :: rest) :=
    fun htakes => htakes "alice" rfl ⟨_, List.mem_cons_self, rfl⟩
  refine ⟨store, hstore, hshown.find_eq_ok_iff.2 ⟨⟨[], _, _, _, _, _, rfl, ?_, rfl⟩, rfl⟩,
    hshown.rolesOf_eq_iff.2 (Or.inl ?_), hshown.rolesOf_eq_iff.2 (Or.inr ⟨?_, rfl⟩)⟩
  · rintro ⟨entry, hentry, -⟩
    cases hentry
  · exact ⟨_ :: _ :: [], _, _, _, rfl, UserStore.takesEffect_setRoles _ _ _, rfl, rfl,
      UserStore.silent_cons.2 ⟨fun htakes => absurd htakes (hrepeated _), UserStore.silent_nil _ _⟩⟩
  · exact UserStore.silent_cons.2 ⟨fun _ => hdistinct.1, UserStore.silent_cons.2 ⟨fun _ => hdistinct.2,
      UserStore.silent_cons.2 ⟨fun _ => hdistinct.1, UserStore.silent_cons.2
        ⟨fun htakes => absurd htakes (hrepeated _), UserStore.silent_nil _ _⟩⟩⟩⟩

end Startup

end Gatehouse
