import Mathlib

/-!
# Entries by name

Lists of names and what they stand for: a name is looked up exactly when some entry has it, and distinct names stay
distinct when an entry of a new name is added.
-/

namespace Gatehouse.Lookup

variable {α : Type} {entries : List (String × α)} {name key : String}

/-- A name is not found exactly when no entry has it. -/
theorem lookup_eq_none_iff_not_mem : entries.lookup name = none ↔ name ∉ entries.map Prod.fst := by
  rw [List.lookup_eq_none_iff, List.mem_map]
  constructor
  · rintro h ⟨entry, hentry, rfl⟩
    simpa using h entry hentry
  · intro h entry hentry
    simpa using fun hname : name = entry.1 => h ⟨entry, hentry, hname.symm⟩

/-- What is found stands in an entry. -/
theorem mem_of_lookup_eq_some {a : α} (h : entries.lookup name = some a) : (name, a) ∈ entries := by
  obtain ⟨before, after, rfl, -⟩ := List.lookup_eq_some_iff.1 h
  exact List.mem_append_right _ List.mem_cons_self

/-- Where names are distinct, each stands for what its entry says. -/
theorem lookup_eq_some_iff_mem {a : α} (h : (entries.map Prod.fst).Nodup) :
    entries.lookup name = some a ↔ (name, a) ∈ entries := by
  refine ⟨mem_of_lookup_eq_some, fun hmem => ?_⟩
  obtain ⟨before, after, rfl⟩ := List.append_of_mem hmem
  rw [List.map_append, List.nodup_append, List.map_cons] at h
  have hbefore : before.lookup name = none :=
    lookup_eq_none_iff_not_mem.2 fun hname => h.2.2 name hname name List.mem_cons_self rfl
  rw [List.lookup_append, hbefore, Option.none_or, List.lookup_cons_self]

/-- An entry of another name is passed over. -/
theorem lookup_cons_of_ne (h : name ≠ key) (a : α) (entries : List (String × α)) :
    ((key, a) :: entries).lookup name = entries.lookup name := by
  rw [List.lookup_cons, beq_eq_false_iff_ne.2 h]

/-- An entry of a new name is added. -/
theorem nodup_append_singleton (h : (entries.map Prod.fst).Nodup) (hnew : entries.lookup key = none) (a : α) :
    ((entries ++ [(key, a)]).map Prod.fst).Nodup := by
  rw [List.map_append]
  exact List.Nodup.append h (List.nodup_singleton key)
    (List.disjoint_singleton.2 (lookup_eq_none_iff_not_mem.1 hnew))

end Gatehouse.Lookup
