import Mathlib
import Gatehouse.Proofs.Policy.Builtin
import Gatehouse.Proofs.Policy.Groupings
import Gatehouse.Proofs.Policy.Lines

/-!
# Runs of an engine

A run is a list of calls of an engine, in any order and with any arguments: registrations of roles, decisions and
questions for the roles of a subject. An engine of the built-in model registers every role that is missing and never
fails to, so that the roles of a subject after a run are those in the text of the policy, followed by what each
registration for this subject added (`Engine.rolesFor_run`).
-/

namespace Gatehouse.Policy

section Once

variable {α : Type} [DecidableEq α]

/-- Elements that stand in a list once stay as they are when repetitions are dropped. -/
theorem eraseDups_of_nodup {l : List α} (h : l.Nodup) : l.eraseDups = l := by
  induction l with
  | nil => rfl
  | cons a l ih =>
    obtain ⟨hnew, hl⟩ := List.nodup_cons.1 h
    have hkept : l.filter (fun b => !b == a) = l := by
      refine List.filter_eq_self.2 ?_
      rintro b hb
      have hne : b ≠ a := by
        rintro rfl
        exact hnew hb
      simp [hne]
    rw [List.eraseDups_cons, hkept, ih hl]

/-- Once repetitions are dropped, every element stands there once. -/
theorem nodup_eraseDups : (l : List α) → l.eraseDups.Nodup
  | [] => List.nodup_nil
  | a :: l => by
    rw [List.eraseDups_cons, List.nodup_cons]
    refine ⟨?_, nodup_eraseDups (l.filter fun b => !b == a)⟩
    rw [List.mem_eraseDups, List.mem_filter]
    rintro ⟨-, hother⟩
    simp at hother
termination_by l => l.length
decreasing_by exact Nat.lt_succ_of_le (List.length_filter_le _ _)

end Once

/-- A call of an engine. -/
inductive Call
  | enforce (subject resource action : String)
  | ensureRoles (subject : String) (roles : List Role)
  | rolesFor (subject : String)

/-- Whether a call registers roles. -/
def Call.registers : Call → Bool
  | .ensureRoles .. => true
  | .enforce .. | .rolesFor _ => false

/-- The roles that a call asks for a subject to have, in the order of their bytes. -/
def Call.wanted (subject : String) : Call → List Role
  | .ensureRoles other roles => if other = subject then Role.inByteOrder roles else []
  | .enforce .. | .rolesFor _ => []

/-- The roles of a subject after some calls, from those before: each call adds those that it wants and that are not
there yet. -/
def rolesAfter (subject : String) (roles : List Role) (calls : List Call) : List Role :=
  calls.foldl (fun present call => present ++ (call.wanted subject).filter (· ∉ present)) roles

/-- The roles that groupings give a subject, in their order. -/
def rolesOf (subject : String) (groupings : List Grouping) : List Role :=
  (groupings.filter (·.subject = subject)).map (·.role)

/-- The roles that two lists of groupings give a subject. -/
theorem rolesOf_append (subject : String) (before after : List Grouping) :
    rolesOf subject (before ++ after) = rolesOf subject before ++ rolesOf subject after := by
  unfold rolesOf
  rw [List.filter_append, List.map_append]

/-- A grouping gives its subject its role. -/
theorem mem_rolesOf {subject : String} {groupings : List Grouping} {role : Role} :
    role ∈ rolesOf subject groupings ↔ ⟨subject, role⟩ ∈ groupings := by
  unfold rolesOf
  simp only [List.mem_map, List.mem_filter, decide_eq_true_eq]
  constructor
  · rintro ⟨g, ⟨hg, rfl⟩, rfl⟩
    exact hg
  · intro hg
    exact ⟨_, ⟨hg, rfl⟩, rfl⟩

/-- Groupings that stand there once give a subject a role once. -/
theorem nodup_rolesOf {groupings : List Grouping} (h : groupings.Nodup) (subject : String) :
    (rolesOf subject groupings).Nodup := by
  refine (h.filter _).map_on ?_
  rintro ⟨s, role⟩ hg ⟨s', role'⟩ hg' rfl
  have hs : s = subject := of_decide_eq_true (List.mem_filter.1 hg).2
  have hs' : s' = subject := of_decide_eq_true (List.mem_filter.1 hg').2
  rw [hs, hs']

/-- What a call wants, it wants once. -/
theorem Call.nodup_wanted (call : Call) (subject : String) : (call.wanted subject).Nodup := by
  unfold wanted
  split
  · split_ifs
    · rw [← Role.sorted_eq_inByteOrder]
      exact Role.nodup_sorted _
    · exact List.nodup_nil
  · exact List.nodup_nil
  · exact List.nodup_nil

/-- No role is listed twice after some calls if none was before. -/
theorem nodup_rolesAfter {subject : String} {roles : List Role} (h : roles.Nodup) (calls : List Call) :
    (rolesAfter subject roles calls).Nodup := by
  induction calls generalizing roles with
  | nil => exact h
  | cons call calls ih =>
    refine ih (h.append ((call.nodup_wanted subject).filter _) ?_)
    intro role hthere hnew
    exact of_decide_eq_true (List.mem_filter.1 hnew).2 hthere

namespace Engine

/-- The engine after a call, of which only a registration changes it. -/
def step (e : Engine) : Call → Engine
  | .enforce .. | .rolesFor _ => e
  | .ensureRoles subject roles => (e.ensureRoles subject roles).1

/-- The engine after a run. -/
def run (e : Engine) (calls : List Call) : Engine := calls.foldl step e

/-- The engine of the built-in model with a set of rules. -/
def ofRules (set : RuleSet) : Engine := ⟨.builtin, set.rules.eraseDups, set.groupings.eraseDups⟩

/-- The engine of a model that is read from its text. -/
theorem build_of_model {text : String} {model : Model} (h : Model.ofText text = .ok model)
    (rules : Unit → Except ServiceError RuleSet) :
    build (.ok text) rules = rules () >>= fun set => (new model set).mapError .policy := by
  unfold build
  simp only [bind, Except.bind, h, Except.mapError]

/-- The engine of the built-in model never fails to take a set of rules. -/
theorem new_builtin (set : RuleSet) : new .builtin set = .ok (ofRules set) := by
  have hfields : groupingFields .builtin = some 2 := rfl
  obtain ⟨rules, groupings⟩ := set
  cases groupings with
  | nil => rfl
  | cons g groupings =>
    have hfresh : (g :: groupings).any (fun g => decide (g ∈ ([] : List Grouping))) = false := by simp
    unfold new register
    simp only [hfields, hfresh, List.isEmpty_cons, Bool.or_false, List.nil_append]
    rfl

/-- The text of the built-in model makes the engine of the rules, if there are any to be had. -/
theorem build_default (rules : Unit → Except ServiceError RuleSet) :
    build (.ok defaultModelText) rules = (rules ()).map ofRules := by
  rw [build_of_model Model.ofText_default]
  cases rules () with
  | error e => rfl
  | ok set =>
    change (new .builtin set).mapError ServiceError.policy = _
    rw [new_builtin]
    rfl

variable {e : Engine} {subject other : String} {roles : List Role} {calls : List Call}

/-! ## Registrations under the built-in model -/

/-- What is missing is missing once. -/
theorem nodup_missing (e : Engine) (subject : String) (roles : List Role) : (e.missing subject roles).Nodup := by
  refine List.Nodup.filter _ (List.Nodup.map ?_ (Role.nodup_sorted roles))
  intro a b h
  exact congrArg Grouping.role h

/-- Under the built-in model, registering roles adds what is missing, and it does not fail. -/
theorem ensureRoles_builtin (hmodel : e.model = .builtin) (subject : String) (roles : List Role) :
    e.ensureRoles subject roles = ({ e with groupings := e.groupings ++ e.missing subject roles }, .ok ()) := by
  have hfields : groupingFields e.model = some 2 := by
    rw [hmodel]
    rfl
  rw [ensureRoles_eq, hfields, eraseDups_of_nodup (nodup_missing e subject roles)]
  by_cases hempty : (e.missing subject roles).isEmpty
  · simp only [hempty, if_true]
    rw [List.isEmpty_iff.1 hempty, List.append_nil]
  · simp only [hempty]
    rfl

/-- The roles of a subject that is not empty are those in its groupings. -/
theorem rolesFor_eq (hsubject : subject ≠ "") : e.rolesFor subject = rolesOf subject e.groupings := by
  have hsame : (fun g : Grouping => (decide (subject = "") || decide (g.subject = subject))) =
      fun g => decide (g.subject = subject) := by
    funext g
    rw [decide_eq_false hsubject, Bool.false_or]
  unfold rolesFor groupingsOf rolesOf
  rw [hsame]

/-- What is missing for a subject is nothing to another one. -/
theorem filter_missing_of_ne (hother : other ≠ subject) (roles : List Role) :
    (e.missing other roles).filter (·.subject = subject) = [] := by
  refine List.filter_eq_nil_iff.2 fun g hg => ?_
  rw [(mem_missing.1 hg).1, decide_eq_true_eq]
  exact hother

/-- What is missing for a subject gives it the roles that it does not have, and gives other subjects none. -/
theorem rolesOf_missing (hsubject : subject ≠ "") (other : String) (roles : List Role) :
    rolesOf subject (e.missing other roles) =
      if other = subject then (Role.sorted roles).filter (· ∉ e.rolesFor subject) else [] := by
  split_ifs with hsame
  · subst hsame
    have hall : (e.missing other roles).filter (·.subject = other) = e.missing other roles := by
      refine List.filter_eq_self.2 fun g hg => ?_
      exact decide_eq_true (mem_missing.1 hg).1
    unfold rolesOf
    rw [hall]
    unfold missing
    rw [List.filter_map, List.map_map]
    have hrole : ((fun g : Grouping => g.role) ∘ fun role => ⟨other, role⟩) = id := rfl
    rw [hrole, List.map_id]
    refine List.filter_congr fun role _ => ?_
    simp only [Function.comp_apply, mem_rolesFor hsubject]
  · unfold rolesOf
    rw [filter_missing_of_ne hsame, List.map_nil]

/-- A registration adds to the roles of its own subject those that are not there, and no call does anything else to the
roles of a subject. -/
theorem rolesFor_step (hmodel : e.model = .builtin) (hsubject : subject ≠ "") (call : Call) :
    (e.step call).rolesFor subject = e.rolesFor subject ++ (call.wanted subject).filter (· ∉ e.rolesFor subject) := by
  cases call with
  | enforce _ _ _ => exact (List.append_nil _).symm
  | rolesFor _ => exact (List.append_nil _).symm
  | ensureRoles other roles =>
    unfold step Call.wanted
    dsimp only
    rw [ensureRoles_builtin hmodel, rolesFor_eq hsubject]
    dsimp only
    rw [rolesOf_append, rolesOf_missing hsubject, ← rolesFor_eq hsubject, Role.sorted_eq_inByteOrder]
    split_ifs
    · rfl
    · rfl

/-! ## Runs -/

/-- A run goes on after its first call. -/
theorem run_cons (call : Call) (rest : List Call) : e.run (call :: rest) = (e.step call).run rest := rfl

/-- A run goes on where the run before it ended. -/
theorem run_append (before after : List Call) : e.run (before ++ after) = (e.run before).run after :=
  List.foldl_append

/-- No call changes model or rules. -/
theorem step_model_rules (e : Engine) (call : Call) :
    (e.step call).model = e.model ∧ (e.step call).rules = e.rules := by
  cases call with
  | enforce _ _ _ => exact ⟨rfl, rfl⟩
  | rolesFor _ => exact ⟨rfl, rfl⟩
  | ensureRoles subject roles => exact ensureRoles_model_rules e subject roles

/-- No run changes model or rules. -/
theorem run_model_rules (e : Engine) (calls : List Call) :
    (e.run calls).model = e.model ∧ (e.run calls).rules = e.rules := by
  induction calls generalizing e with
  | nil => exact ⟨rfl, rfl⟩
  | cons call calls ih =>
    obtain ⟨hmodel, hrules⟩ := step_model_rules e call
    rw [run_cons, (ih (e.step call)).1, (ih (e.step call)).2]
    exact ⟨hmodel, hrules⟩

/-- The roles of a subject after a run are those before it with those that each registration added. -/
theorem rolesFor_run (hmodel : e.model = .builtin) (hsubject : subject ≠ "") (calls : List Call) :
    (e.run calls).rolesFor subject = rolesAfter subject (e.rolesFor subject) calls := by
  induction calls generalizing e with
  | nil => rfl
  | cons call calls ih =>
    rw [run_cons, ih ((step_model_rules e call).1.trans hmodel), rolesFor_step hmodel hsubject]
    rfl

/-- The groupings after a call are those before it and those that it asks for, if it is a registration. -/
theorem mem_groupings_step {g : Grouping} (hmodel : e.model = .builtin) (call : Call) :
    g ∈ (e.step call).groupings ↔
      g ∈ e.groupings ∨ ∃ roles, Call.ensureRoles g.subject roles = call ∧ g.role ∈ roles := by
  cases call with
  | enforce _ _ _ => simp [step]
  | rolesFor _ => simp [step]
  | ensureRoles subject roles =>
    have hfields : groupingFields e.model ≠ none := by
      rw [hmodel]
      exact Option.some_ne_none 2
    unfold step
    dsimp only
    rw [mem_groupings_ensureRoles]
    constructor
    · rintro (hg | ⟨-, rfl, hrole⟩)
      · exact Or.inl hg
      · exact Or.inr ⟨roles, rfl, hrole⟩
    · rintro (hg | ⟨_, hcall, hrole⟩)
      · exact Or.inl hg
      · obtain ⟨hsubject, rfl⟩ := Call.ensureRoles.inj hcall
        exact Or.inr ⟨hfields, hsubject, hrole⟩

/-- The groupings after a run are those before it and those that its registrations ask for. -/
theorem mem_groupings_run {g : Grouping} (hmodel : e.model = .builtin) (calls : List Call) :
    g ∈ (e.run calls).groupings ↔
      g ∈ e.groupings ∨ ∃ roles, Call.ensureRoles g.subject roles ∈ calls ∧ g.role ∈ roles := by
  induction calls generalizing e with
  | nil => simp [run]
  | cons call calls ih =>
    rw [run_cons, ih ((step_model_rules e call).1.trans hmodel), mem_groupings_step hmodel]
    simp only [List.mem_cons]
    constructor
    · rintro ((hg | ⟨roles, rfl, hrole⟩) | ⟨roles, hcall, hrole⟩)
      · exact Or.inl hg
      · exact Or.inr ⟨roles, Or.inl rfl, hrole⟩
      · exact Or.inr ⟨roles, Or.inr hcall, hrole⟩
    · rintro (hg | ⟨roles, hcall | hcall, hrole⟩)
      · exact Or.inl (Or.inl hg)
      · exact Or.inl (Or.inr ⟨roles, hcall, hrole⟩)
      · exact Or.inr ⟨roles, hcall, hrole⟩

/-- A call that a run has made does nothing when it is made again. -/
theorem step_run_of_mem {call : Call} (hmodel : e.model = .builtin) (hcall : call ∈ calls) :
    (e.run calls).step call = e.run calls := by
  cases call with
  | enforce _ _ _ => rfl
  | rolesFor _ => rfl
  | ensureRoles subject roles =>
    have hnone : (e.run calls).missing subject roles = [] := by
      refine List.eq_nil_iff_forall_not_mem.2 fun g hg => ?_
      obtain ⟨rfl, hrole, hnew⟩ := mem_missing.1 hg
      exact hnew ((mem_groupings_run hmodel calls).2 (Or.inr ⟨roles, hcall, hrole⟩))
    unfold step
    dsimp only
    rw [ensureRoles_builtin ((run_model_rules e calls).1.trans hmodel), hnone, List.append_nil]

/-- Only registrations count in a run. -/
theorem run_filter_registers (e : Engine) (calls : List Call) : e.run (calls.filter Call.registers) = e.run calls := by
  induction calls generalizing e with
  | nil => rfl
  | cons call calls ih =>
    cases call with
    | enforce _ _ _ => exact ih e
    | rolesFor _ => exact ih e
    | ensureRoles subject roles => exact ih (e.ensureRoles subject roles).1

/-- Let an engine of the built-in model start with the rules and groupings of a text. In every run registrations
succeed, and the roles of a subject that is not empty are those of the text, in its order, followed by what each
registration for this subject added: the roles that were not there, in the order of their bytes. No role stands there
twice and none is lost. A call that was made before changes nothing when it is made again, nor does a call that
registers no roles. -/
theorem rolesFor_run_of_text {text : String} {set : RuleSet} (htext : RuleSet.ofText text = .ok set) :
    ∃ engine, build (.ok defaultModelText) (fun () => .ok set) = .ok engine ∧ ∀ calls : List Call,
      (∀ subject roles, ((engine.run calls).ensureRoles subject roles).2 = .ok ()) ∧
      (∀ subject, subject ≠ "" →
        (engine.run calls).rolesFor subject =
            rolesAfter subject (rolesOf subject (RuleSet.statedGroupings text)) calls ∧
          ((engine.run calls).rolesFor subject).Nodup ∧
          ∀ role, role ∈ (engine.run calls).rolesFor subject ↔
            role ∈ rolesOf subject (RuleSet.statedGroupings text) ∨
              ∃ roles, Call.ensureRoles subject roles ∈ calls ∧ role ∈ roles) ∧
      (∀ call ∈ calls, engine.run (calls ++ [call]) = engine.run calls) ∧
      engine.run (calls.filter Call.registers) = engine.run calls := by
  refine ⟨ofRules set, build_default _, fun calls => ?_⟩
  have hmodel : ((ofRules set).run calls).model = .builtin := (run_model_rules (ofRules set) calls).1
  have hgroupings : (ofRules set).groupings = RuleSet.statedGroupings text := by
    change set.groupings.eraseDups = _
    rw [RuleSet.groupings_ofText htext]
    exact eraseDups_of_nodup (nodup_eraseDups _)
  refine ⟨?_, ?_, ?_, run_filter_registers _ calls⟩
  · intro subject roles
    rw [ensureRoles_builtin hmodel]
  · intro subject hsubject
    have hroles := rolesFor_run (e := ofRules set) rfl hsubject calls
    rw [rolesFor_eq (e := ofRules set) hsubject, hgroupings] at hroles
    refine ⟨hroles, ?_, fun role => ?_⟩
    · rw [hroles]
      exact nodup_rolesAfter (nodup_rolesOf (nodup_eraseDups _) subject) calls
    · rw [mem_rolesFor hsubject, mem_groupings_run rfl, hgroupings, mem_rolesOf]
  · intro call hcall
    rw [run_append]
    exact step_run_of_mem rfl hcall

/-- Of three roles that are registered for a user who has one of them from the text, the two others are added, in
order. -/
theorem rolesFor_run_of_overlap :
    let text := "g, alice, user\ng, bob, admin\ng, alice, user"
    let calls : List Call :=
      [.ensureRoles "alice" [⟨"user"⟩, ⟨"coach"⟩, ⟨"admin"⟩], .enforce "alice" "/teams" "GET",
        .ensureRoles "alice" [⟨"coach"⟩]]
    ∃ set engine, RuleSet.ofText text = .ok set ∧ build (.ok defaultModelText) (fun () => .ok set) = .ok engine ∧
      (engine.run calls).rolesFor "alice" = [⟨"user"⟩, ⟨"admin"⟩, ⟨"coach"⟩] := by
  intro text calls
  have htext : RuleSet.ofText text = .ok ⟨[], [⟨"alice", ⟨"user"⟩⟩, ⟨"bob", ⟨"admin"⟩⟩]⟩ := by decide +kernel
  obtain ⟨engine, hbuild, hrun⟩ := rolesFor_run_of_text htext
  obtain ⟨-, hroles, -, -⟩ := hrun calls
  refine ⟨_, engine, htext, hbuild, ?_⟩
  rw [(hroles "alice" (by decide)).1]
  have hstated : RuleSet.statedGroupings text = [⟨"alice", ⟨"user"⟩⟩, ⟨"bob", ⟨"admin"⟩⟩] := by decide +kernel
  have hfirst : (Call.ensureRoles "alice" [⟨"user"⟩, ⟨"coach"⟩, ⟨"admin"⟩]).wanted "alice" =
      [⟨"admin"⟩, ⟨"coach"⟩, ⟨"user"⟩] := by
    rw [Call.wanted, if_pos rfl, ← Role.sorted_eq_inByteOrder]
    decide
  have hlast : (Call.ensureRoles "alice" [⟨"coach"⟩]).wanted "alice" = [⟨"coach"⟩] := by
    rw [Call.wanted, if_pos rfl, ← Role.sorted_eq_inByteOrder]
    decide
  rw [hstated]
  simp only [calls, rolesAfter, List.foldl_cons, List.foldl_nil, hfirst, hlast]
  decide +kernel

end Engine

end Gatehouse.Policy
