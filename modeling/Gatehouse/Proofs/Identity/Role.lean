import Mathlib
import Gatehouse.Identity.Role
import Gatehouse.Proofs.Text.Order

/-!
# Sorted roles

Sorting keeps the roles of a list, each once, in the order of the bytes of their names (`sorted_eq_inByteOrder`).
-/

namespace Gatehouse.Role

/-- A role stands in an ascending list after it was added, beside those that stood there. -/
theorem mem_insertSorted {role other : Role} {roles : List Role} :
    other ∈ insertSorted role roles ↔ other = role ∨ other ∈ roles := by
  induction roles with
  | nil => simp [insertSorted]
  | cons first rest ih =>
    rw [insertSorted]
    split_ifs with hsame hbefore
    · subst hsame
      simp
    · simp
    · simp only [List.mem_cons, ih]
      tauto

/-- Sorting keeps the roles of a list. -/
theorem mem_sorted {role : Role} {roles : List Role} : role ∈ sorted roles ↔ role ∈ roles := by
  induction roles with
  | nil => simp [sorted]
  | cons first rest ih =>
    change role ∈ insertSorted first (sorted rest) ↔ _
    rw [mem_insertSorted, ih, List.mem_cons]

/-- Roles with the same name are the same. -/
theorem name_injective : Function.Injective name := by
  rintro ⟨s⟩ ⟨t⟩ rfl
  rfl

/-- An ascending list stays one when a role is added. -/
theorem pairwise_insertSorted {role : Role} {roles : List Role} (h : roles.Pairwise fun a b => a.name < b.name) :
    (insertSorted role roles).Pairwise fun a b => a.name < b.name := by
  induction roles with
  | nil => exact List.pairwise_singleton _ _
  | cons first rest ih =>
    obtain ⟨hfirst, hrest⟩ := List.pairwise_cons.1 h
    rw [insertSorted]
    split_ifs with hsame hbefore
    · exact h
    · have hlt : role.name < first.name :=
        lt_of_le_of_ne (of_decide_eq_true hbefore) fun he => hsame (name_injective he)
      refine List.pairwise_cons.2 ⟨?_, h⟩
      intro other hother
      rcases List.mem_cons.1 hother with rfl | hother
      · exact hlt
      · exact hlt.trans (hfirst other hother)
    · have hlt : first.name < role.name := not_le.1 fun hle => hbefore (decide_eq_true hle)
      refine List.pairwise_cons.2 ⟨?_, ih hrest⟩
      intro other hother
      rcases mem_insertSorted.1 hother with rfl | hother
      · exact hlt
      · exact hfirst other hother

/-- Sorted roles ascend by their names. -/
theorem pairwise_sorted (roles : List Role) : (sorted roles).Pairwise fun a b => a.name < b.name := by
  induction roles with
  | nil => exact List.Pairwise.nil
  | cons role roles ih => exact pairwise_insertSorted ih

/-- Sorted roles stand there once. -/
theorem nodup_sorted (roles : List Role) : (sorted roles).Nodup := by
  refine (pairwise_sorted roles).imp ?_
  rintro a b hlt rfl
  exact lt_irrefl _ hlt

/-- The roles of a list, each once, in the order of the bytes of their names. -/
def inByteOrder (roles : List Role) : List Role :=
  roles.dedup.mergeSort fun a b => decide (Text.Utf8.ofString a.name ≤ Text.Utf8.ofString b.name)

/-- Sorting puts roles in the order of their bytes. -/
theorem sorted_eq_inByteOrder (roles : List Role) : sorted roles = inByteOrder roles := by
  have hascending : (inByteOrder roles).Pairwise fun a b => a.name ≤ b.name := by
    refine (List.pairwise_mergeSort ?_ ?_ roles.dedup).imp fun {a b} h => ?_
    · intro a b c hab hbc
      simp only [decide_eq_true_eq, Text.Utf8.ofString_le_iff] at hab hbc ⊢
      exact hab.trans hbc
    · intro a b
      simp only [Bool.or_eq_true, decide_eq_true_eq, Text.Utf8.ofString_le_iff]
      exact le_total a.name b.name
    · simpa only [decide_eq_true_eq, Text.Utf8.ofString_le_iff] using h
  have hperm : (sorted roles).Perm (inByteOrder roles) := by
    refine List.Perm.trans ?_ (List.mergeSort_perm _ _).symm
    rw [List.perm_ext_iff_of_nodup (nodup_sorted roles) (List.nodup_dedup roles)]
    intro role
    rw [mem_sorted, List.mem_dedup]
  refine hperm.eq_of_pairwise ?_ ((pairwise_sorted roles).imp le_of_lt) hascending
  intro a b _ _ hab hba
  exact name_injective (le_antisymm hab hba)

end Gatehouse.Role
