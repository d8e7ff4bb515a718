import Mathlib
import Gatehouse.Policy.Engine
import Gatehouse.Proofs.Identity.Role

/-!
# What registering roles changes

Registering roles for a subject adds the groupings that the subject does not have, if the model has groupings at all,
and changes nothing else (`mem_groupings_ensureRoles`): not the rules, not the model, and not the roles of another
subject.
-/

namespace Gatehouse

namespace Policy.Engine

variable {e : Engine} {subject other : String} {roles : List Role}

/-- The groupings that a subject lacks are those of the wanted roles that are not there. -/
theorem mem_missing {g : Grouping} :
    g ∈ e.missing subject roles ↔ g.subject = subject ∧ g.role ∈ roles ∧ g ∉ e.groupings := by
  simp only [missing, List.mem_filter, List.mem_map, Role.mem_sorted, decide_eq_true_eq]
  constructor
  · rintro ⟨⟨role, hrole, rfl⟩, hnew⟩
    exact ⟨rfl, hrole, hnew⟩
  · rintro ⟨rfl, hrole, hnew⟩
    exact ⟨⟨g.role, hrole, rfl⟩, hnew⟩

/-- What registering missing groupings answers, and the engine after it. -/
theorem ensureRoles_eq (e : Engine) (subject : String) (roles : List Role) :
    e.ensureRoles subject roles =
      match groupingFields e.model with
      | none => (e, .ok ())
      | some n =>
        if (e.missing subject roles).isEmpty then (e, .ok ())
        else
          ({ e with groupings := e.groupings ++ (e.missing subject roles).eraseDups },
            if n ≤ 2 then .ok () else .error (.policy ("UnmatchPolicyDefinition(" ++ toString n ++ ", 2)"))) := by
  have hnew : (e.missing subject roles).any (· ∈ e.groupings) = false := by
    rw [List.any_eq_false]
    intro g hg
    rw [decide_eq_true_eq]
    exact (mem_missing.1 hg).2.2
  unfold ensureRoles register
  cases groupingFields e.model with
  | none => rfl
  | some n => simp only [hnew, Bool.or_false]

/-- Registering roles changes neither model nor rules. -/
theorem ensureRoles_model_rules (e : Engine) (subject : String) (roles : List Role) :
    (e.ensureRoles subject roles).1.model = e.model ∧ (e.ensureRoles subject roles).1.rules = e.rules := by
  rw [ensureRoles_eq]
  split
  · exact ⟨rfl, rfl⟩
  · split_ifs <;> exact ⟨rfl, rfl⟩

/-- After roles were registered, the groupings are those before and, if the model has groupings, those of the subject
with each of the roles. -/
theorem mem_groupings_ensureRoles {g : Grouping} :
    g ∈ (e.ensureRoles subject roles).1.groupings ↔
      g ∈ e.groupings ∨ groupingFields e.model ≠ none ∧ g.subject = subject ∧ g.role ∈ roles := by
  rw [ensureRoles_eq]
  split
  · next h => simp [h]
  next n h =>
  by_cases hempty : (e.missing subject roles).isEmpty
  · have hthere : g.subject = subject ∧ g.role ∈ roles → g ∈ e.groupings := by
      rintro ⟨hsubject, hrole⟩
      by_contra hnew
      have hg := mem_missing.2 ⟨hsubject, hrole, hnew⟩
      rw [List.isEmpty_iff.1 hempty] at hg
      exact List.not_mem_nil hg
    rw [if_pos hempty, h]
    simp only [ne_eq, reduceCtorEq, not_false_eq_true, true_and]
    exact ⟨Or.inl, fun hg => hg.elim id hthere⟩
  · rw [if_neg hempty, h]
    simp only [List.mem_append, List.mem_eraseDups, mem_missing, ne_eq, reduceCtorEq, not_false_eq_true, true_and]
    tauto

/-- A subject that is not empty has the roles that it is grouped with. -/
theorem mem_rolesFor {role : Role} (hsubject : subject ≠ "") :
    role ∈ e.rolesFor subject ↔ ⟨subject, role⟩ ∈ e.groupings := by
  simp only [rolesFor, groupingsOf, List.mem_map, List.mem_filter, Bool.or_eq_true, decide_eq_true_eq, hsubject,
    false_or]
  constructor
  · rintro ⟨g, ⟨hg, rfl⟩, rfl⟩
    exact hg
  · intro hg
    exact ⟨_, ⟨hg, rfl⟩, rfl⟩

/-- No roles at all are always registered, and nothing changes. -/
theorem ensureRoles_nil (e : Engine) (subject : String) : e.ensureRoles subject [] = (e, .ok ()) := by
  rw [ensureRoles_eq]
  split
  · rfl
  · rfl

end Policy.Engine

end Gatehouse
