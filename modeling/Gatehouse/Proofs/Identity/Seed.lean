import Mathlib
import Gatehouse.Identity.User

/-!
# Seeding users

Users are entered one after the other, and a name that is there already ends it. So users with distinct names are all
entered, and otherwise the first name that repeats an earlier one is reported (`UserStore.seed_empty_eq_error_iff`).
-/

namespace Gatehouse

/-- A name is the first in a list that repeats one before it. -/
def FirstRepeated (names : List String) (name : String) : Prop :=
  ∃ before after, names = before ++ name :: after ∧ before.Nodup ∧ name ∈ before

/-- Where a name repeats another, they are not distinct. -/
theorem FirstRepeated.not_nodup {names : List String} {name : String} (h : FirstRepeated names name) :
    ¬names.Nodup := by
  obtain ⟨before, after, rfl, -, hname⟩ := h
  intro hnodup
  exact List.disjoint_of_nodup_append hnodup hname List.mem_cons_self

/-- Only one name is the first that repeats another. -/
theorem FirstRepeated.unique {names : List String} {name other : String} (h : FirstRepeated names name)
    (h' : FirstRepeated names other) : name = other := by
  obtain ⟨before, after, rfl, hnodup, hname⟩ := h
  obtain ⟨before', after', hnames, hnodup', hother⟩ := h'
  -- Were one of them further back, it would stand behind names that are not distinct.
  rcases List.append_eq_append_iff.1 hnames with ⟨skipped, rfl, hrest⟩ | ⟨skipped, rfl, hrest⟩
  · cases skipped with
    | nil => exact (List.cons.inj hrest).1
    | cons first skipped =>
      obtain ⟨rfl, -⟩ := List.cons.inj hrest
      exact (List.disjoint_of_nodup_append hnodup' hname List.mem_cons_self).elim
  · cases skipped with
    | nil => exact (List.cons.inj hrest).1.symm
    | cons first skipped =>
      obtain ⟨rfl, -⟩ := List.cons.inj hrest
      exact (List.disjoint_of_nodup_append hnodup hother List.mem_cons_self).elim

namespace UserStore

variable {store store' : UserStore} {clock : Clock}

/-- The names of the users of a store. -/
def names (store : UserStore) : List String := store.users.map (·.username)

/-- A name is free exactly when no user has it. -/
theorem get?_eq_none_iff {username : String} : store.get? username = none ↔ username ∉ store.names := by
  rw [get?, List.find?_eq_none, names, List.mem_map]
  constructor
  · rintro h ⟨user, huser, hname⟩
    exact h user huser (decide_eq_true hname)
  · intro h user huser hname
    exact h ⟨user, huser, of_decide_eq_true hname⟩

/-- Inserting a user adds its name, if the name is free, and is a conflict otherwise. -/
theorem insert_cases (store : UserStore) (id : Uuid) (now : Instant) (new : NewUser) (roles : List Role) :
    (new.username ∉ store.names ∧
      ∃ user store', store.insert id now new roles = .ok (user, store') ∧
        store'.names = store.names ++ [new.username]) ∨
    (new.username ∈ store.names ∧
      store.insert id now new roles = .error (.conflict ("username " ++ new.username))) := by
  unfold insert
  cases hget : store.get? new.username with
  | none =>
    refine Or.inl ⟨get?_eq_none_iff.1 hget, _, _, rfl, ?_⟩
    rw [names, setRoles, List.map_append]
    rfl
  | some user =>
    refine Or.inr ⟨?_, rfl⟩
    by_contra hfree
    rw [get?_eq_none_iff.2 hfree] at hget
    cases hget

/-- Users are all entered if their names are distinct and free, and otherwise the first name that is there already is a
conflict. -/
theorem seed_cases {users : List (Uuid × NewUser × List Role)} (hstore : store.names.Nodup) :
    ((store.names ++ users.map (·.2.1.username)).Nodup ∧ ∃ store', seed clock store users = .ok store') ∨
      ∃ name, FirstRepeated (store.names ++ users.map (·.2.1.username)) name ∧
        seed clock store users = .error (.conflict ("username " ++ name)) := by
  induction users generalizing clock store with
  | nil => exact Or.inl ⟨by rwa [List.map_nil, List.append_nil], store, rfl⟩
  | cons entry users ih =>
    obtain ⟨id, new, roles⟩ := entry
    rw [seed, List.map_cons]
    rcases insert_cases store id (clock.reading 0) new roles with
      ⟨hfree, user, next, hinsert, hnames⟩ | ⟨htaken, hinsert⟩
    · have hnext : next.names.Nodup := by
        rw [hnames, List.nodup_append]
        refine ⟨hstore, List.nodup_singleton _, fun a ha b hb => ?_⟩
        rw [List.mem_singleton.1 hb]
        rintro rfl
        exact hfree ha
      have hsplit : next.names ++ users.map (·.2.1.username) =
          store.names ++ new.username :: users.map (·.2.1.username) := by
        rw [hnames, List.append_assoc, List.singleton_append]
      rw [hinsert]
      dsimp only
      rw [← hsplit]
      exact ih hnext
    · rw [hinsert]
      exact Or.inr ⟨new.username, ⟨store.names, _, rfl, hstore, htaken⟩, rfl⟩

/-- Users are not entered into an empty store exactly when a name repeats an earlier one, and the first such name is
reported. -/
theorem seed_empty_eq_error_iff {users : List (Uuid × NewUser × List Role)} {e : StoreError} :
    seed clock .empty users = .error e ↔
      ∃ name, FirstRepeated (users.map (·.2.1.username)) name ∧ e = .conflict ("username " ++ name) := by
  rcases @seed_cases .empty clock users List.nodup_nil with ⟨hnodup, store', hseed⟩ | ⟨name, hname, hseed⟩
  · rw [hseed]
    constructor
    · intro h
      cases h
    · rintro ⟨name, hname, -⟩
      exact (hname.not_nodup hnodup).elim
  · rw [hseed]
    constructor
    · intro h
      exact ⟨name, hname, (Except.error.inj h).symm⟩
    · rintro ⟨other, hother, rfl⟩
      rw [FirstRepeated.unique hname hother]

/-- Users are entered into an empty store exactly when their names are distinct. -/
theorem exists_seed_empty_iff {users : List (Uuid × NewUser × List Role)} :
    (∃ store', seed clock .empty users = .ok store') ↔ (users.map (·.2.1.username)).Nodup := by
  rcases @seed_cases .empty clock users List.nodup_nil with ⟨hnodup, store', hseed⟩ | ⟨name, hname, hseed⟩
  · exact iff_of_true ⟨store', hseed⟩ hnodup
  · refine iff_of_false ?_ hname.not_nodup
    rintro ⟨store', hok⟩
    rw [hseed] at hok
    cases hok

end UserStore

end Gatehouse
