import Mathlib
import Gatehouse.Proofs.Pattern.Engine
import Gatehouse.Proofs.Policy.Run

/-!
# Decisions under the built-in model

A subject may do something with a resource when a rule allows it under the subject's own name or under one of its
roles (`Rule.Allows`). Looking at the names and at the rules in turn and stopping at the first that allows finds such
a rule if there is one, provided that no pattern on the way is broken; what is allowed is allowed by a rule in any
case (`Engine.exists_allows_of_enforce`, `Engine.enforce_builtin`). All of this holds for every engine for regular
expressions.
-/

namespace Gatehouse

namespace Policy

section Permission

variable [Pattern.RegexEngine]

/-- A rule allows a name to do something with a resource. -/
structure Rule.Allows (rule : Rule) (name resource action : String) : Prop where
  effect_eq : rule.effect = .allow
  subject_eq : rule.subject = name
  resource_matches : Pattern.matchesColons resource.toList rule.resource.toList = some true
  action_eq : rule.action = action ∨ rule.action = "*"

/-- A set of rules permits a subject with some groupings to do something with a resource: the effect of some rule is to
allow, its subject is the very subject or a role that a grouping of the subject names, the resource matches its pattern,
and its action is the same or a star. -/
def RuleSet.Permits (set : RuleSet) (groupings : List Grouping) (subject resource action : String) : Prop :=
  ∃ rule ∈ set.rules, rule.effect = .allow ∧ (rule.subject = subject ∨ ⟨subject, ⟨rule.subject⟩⟩ ∈ groupings) ∧
    Pattern.matchesColons resource.toList rule.resource.toList = some true ∧ (rule.action = action ∨ rule.action = "*")

/-- What is permitted depends on the rules that allow and on the groupings of the subject, each as a set. -/
theorem RuleSet.permits_congr {set set' : RuleSet} {groupings groupings' : List Grouping} {subject : String}
    (hrules : ∀ rule : Rule, rule.effect = .allow → (rule ∈ set.rules ↔ rule ∈ set'.rules))
    (hroles : ∀ role, ⟨subject, role⟩ ∈ groupings ↔ ⟨subject, role⟩ ∈ groupings') (resource action : String) :
    set.Permits groupings subject resource action ↔ set'.Permits groupings' subject resource action := by
  unfold Permits
  refine exists_congr fun rule => ?_
  rw [hroles]
  constructor
  · rintro ⟨hrule, heffect, hrest⟩
    exact ⟨(hrules rule heffect).1 hrule, heffect, hrest⟩
  · rintro ⟨hrule, heffect, hrest⟩
    exact ⟨(hrules rule heffect).2 hrule, heffect, hrest⟩

end Permission

namespace Engine

/-! ## Scans that stop early -/

section Scan

variable {effect : Rule → Except PolicyFault (Option Effect)} {rules : List Rule}

/-- Where one rule that allows is enough, what is allowed is allowed by a rule. -/
theorem exists_of_decideRules (h : decideRules .anyAllow effect false rules = .ok true) :
    ∃ rule ∈ rules, effect rule = .ok (some .allow) := by
  induction rules with
  | nil => cases h
  | cons rule rules ih =>
    rw [decideRules] at h
    cases heffect : effect rule with
    | error f =>
      rw [heffect] at h
      cases h
    | ok found =>
      rw [heffect] at h
      rcases found with _ | _ | _
      · obtain ⟨other, hother, hallow⟩ := ih h
        exact ⟨other, List.mem_cons_of_mem _ hother, hallow⟩
      · exact ⟨rule, List.mem_cons_self, heffect⟩
      · obtain ⟨other, hother, hallow⟩ := ih h
        exact ⟨other, List.mem_cons_of_mem _ hother, hallow⟩

/-- Rules that can all be evaluated are decided, and what one of them allows is allowed. -/
theorem decideRules_of_evaluated (hall : ∀ rule ∈ rules, ∃ found, effect rule = .ok found) :
    ∃ allowed, decideRules .anyAllow effect false rules = .ok allowed ∧
      ((∃ rule ∈ rules, effect rule = .ok (some .allow)) → allowed = true) := by
  induction rules with
  | nil =>
    refine ⟨false, rfl, ?_⟩
    rintro ⟨rule, hrule, -⟩
    exact absurd hrule List.not_mem_nil
  | cons rule rules ih =>
    obtain ⟨allowed, hrest, hcomplete⟩ := ih fun r hr => hall r (List.mem_cons_of_mem _ hr)
    obtain ⟨found, heffect⟩ := hall rule List.mem_cons_self
    rw [decideRules, heffect]
    rcases found with _ | _ | _
    · refine ⟨allowed, hrest, ?_⟩
      rintro ⟨other, hother, hallow⟩
      rcases List.mem_cons.1 hother with rfl | hother
      · rw [heffect] at hallow
        cases hallow
      · exact hcomplete ⟨other, hother, hallow⟩
    · exact ⟨true, rfl, fun _ => rfl⟩
    · refine ⟨allowed, hrest, ?_⟩
      rintro ⟨other, hother, hallow⟩
      rcases List.mem_cons.1 hother with rfl | hother
      · rw [heffect] at hallow
        cases hallow
      · exact hcomplete ⟨other, hother, hallow⟩

variable [Pattern.RegexEngine] {e : Engine} {resource action : String} {names : List String}

/-- What one of some names is allowed, it is allowed by itself. -/
theorem exists_of_enforceAny (h : e.enforceAny resource action names = .ok true) :
    ∃ name ∈ names, e.enforceAs name resource action = .ok true := by
  induction names with
  | nil => cases h
  | cons name names ih =>
    rw [enforceAny] at h
    split at h
    · cases h
    · next hname => exact ⟨name, List.mem_cons_self, hname⟩
    · obtain ⟨other, hother, hallowed⟩ := ih h
      exact ⟨other, List.mem_cons_of_mem _ hother, hallowed⟩

/-- Names that can all be decided are decided together, and what one of them is allowed is allowed. -/
theorem enforceAny_of_decided (hall : ∀ name ∈ names, ∃ allowed, e.enforceAs name resource action = .ok allowed) :
    ∃ allowed, e.enforceAny resource action names = .ok allowed ∧
      ((∃ name ∈ names, e.enforceAs name resource action = .ok true) → allowed = true) := by
  induction names with
  | nil =>
    refine ⟨false, rfl, ?_⟩
    rintro ⟨name, hname, -⟩
    exact absurd hname List.not_mem_nil
  | cons name names ih =>
    obtain ⟨allowed, hrest, hcomplete⟩ := ih fun n hn => hall n (List.mem_cons_of_mem _ hn)
    obtain ⟨first, hfirst⟩ := hall name List.mem_cons_self
    rw [enforceAny, hfirst]
    cases first with
    | true => exact ⟨true, rfl, fun _ => rfl⟩
    | false =>
      refine ⟨allowed, hrest, ?_⟩
      rintro ⟨other, hother, hallowed⟩
      rcases List.mem_cons.1 hother with rfl | hother
      · rw [hfirst] at hallowed
        cases hallowed
      · exact hcomplete ⟨other, hother, hallowed⟩

end Scan

/-! ## Rules and names -/

section Names

variable {e : Engine} {subject : String}

/-- The rules that decide: without rules, the matcher is asked once about a rule whose fields are empty. -/
def decisive (e : Engine) : List Rule := if e.rules.isEmpty then [⟨"", "", "", .allow⟩] else e.rules

/-- Where there are rules, they decide. -/
theorem decisive_of_rules (h : e.rules ≠ []) : e.decisive = e.rules :=
  if_neg fun hempty => h (List.isEmpty_iff.1 hempty)

/-- A subject acts under its own name and under the names of its roles. -/
def ActsAs (e : Engine) (subject name : String) : Prop := name = subject ∨ ⟨name⟩ ∈ e.rolesFor subject

/-- The names that are looked at are those that the subject acts under. -/
theorem mem_names_iff {name : String} :
    name ∈ subject :: (e.rolesFor subject).map (·.name) ↔ e.ActsAs subject name := by
  rw [List.mem_cons, List.mem_map, ActsAs]
  constructor
  · rintro (rfl | ⟨role, hrole, rfl⟩)
    · exact Or.inl rfl
    · exact Or.inr hrole
  · rintro (rfl | hrole)
    · exact Or.inl rfl
    · exact Or.inr ⟨_, hrole, rfl⟩

end Names

/-! ## Effects of rules -/

section Decision

variable [Pattern.RegexEngine] {e : Engine} {subject resource action : String}

/-- The effect of a rule on a request, under the built-in model. -/
def builtinEffect (e : Engine) (subject resource action : String) : Rule → Except PolicyFault (Option Effect) :=
  e.ruleEffect .builtin Model.builtinRequest Model.builtinRule [subject, resource, action]

/-- A rule has the effect to allow exactly when it allows. -/
theorem builtinEffect_eq_allow_iff (hmodel : e.model = .builtin) {rule : Rule} :
    e.builtinEffect subject resource action rule = .ok (some .allow) ↔ rule.Allows subject resource action := by
  unfold builtinEffect
  rw [ruleEffect_builtin hmodel]
  constructor
  · intro h
    split_ifs at h with hsubject
    · split at h
      · next matched hmatched =>
        split_ifs at h with hboth
        · obtain ⟨rfl, haction⟩ := Bool.and_eq_true_iff.1 hboth
          have heffect : rule.effect = .allow := Option.some.inj (Except.ok.inj h)
          refine ⟨heffect, hsubject.symm, hmatched, ?_⟩
          rcases Bool.or_eq_true_iff.1 haction with hsame | hstar
          · exact Or.inl (of_decide_eq_true hsame).symm
          · exact Or.inr (of_decide_eq_true hstar)
        · cases h
      · cases h
    · cases h
  · rintro ⟨heffect, hsubject, hmatched, haction⟩
    have hdecided : (decide (action = rule.action) || decide (rule.action = "*")) = true := by
      rcases haction with hsame | hstar
      · rw [decide_eq_true hsame.symm, Bool.true_or]
      · rw [decide_eq_true hstar, Bool.or_true]
    rw [if_pos hsubject.symm, hmatched]
    dsimp only
    rw [hdecided, heffect]
    rfl

/-- A rule whose pattern makes an expression can be evaluated. -/
theorem exists_builtinEffect (hmodel : e.model = .builtin) {rule : Rule} (hpattern : Pattern.Compiles rule.resource) :
    ∃ found, e.builtinEffect subject resource action rule = .ok found := by
  obtain ⟨matched, hmatched⟩ := hpattern.exists_matched resource.toList
  unfold builtinEffect
  rw [ruleEffect_builtin hmodel, hmatched]
  split_ifs
  · exact ⟨_, rfl⟩
  · exact ⟨_, rfl⟩

/-- An action that is not empty is allowed by a rule alone. -/
theorem mem_rules_of_allows {rule : Rule} {name : String} (hrule : rule ∈ e.decisive)
    (hallows : rule.Allows name resource action) (haction : action ≠ "") : rule ∈ e.rules := by
  unfold decisive at hrule
  split_ifs at hrule
  · obtain rfl := List.mem_singleton.1 hrule
    rcases hallows.action_eq with hsame | hstar
    · exact absurd hsame.symm haction
    · exact absurd hstar (by decide)
  · exact hrule

/-- The rules that decide have patterns that make expressions if the engine's rules do. -/
theorem compiles_of_mem_decisive [Pattern.LawfulRegexEngine]
    (hpatterns : ∀ rule ∈ e.rules, Pattern.Compiles rule.resource) :
    ∀ rule ∈ e.decisive, Pattern.Compiles rule.resource := by
  intro rule hrule
  unfold decisive at hrule
  split_ifs at hrule
  · obtain rfl := List.mem_singleton.1 hrule
    exact Pattern.compiles_empty
  · exact hpatterns rule hrule

/-- A decision under one name looks at the rules in turn. -/
theorem enforceAs_builtin (hmodel : e.model = .builtin) :
    e.enforceAs subject resource action =
      decideRules .anyAllow (e.builtinEffect subject resource action) false e.decisive := by
  have hcombination : Combination.ofText? "some(where (p_eft == allow))" = some .anyAllow := by decide
  have hrequest : e.model.request = some Model.builtinRequest := by rw [hmodel]; rfl
  have hrule : e.model.rule = some Model.builtinRule := by rw [hmodel]; rfl
  have hmatcher : e.model.matcher = some .builtin := by rw [hmodel]; rfl
  have heffect : e.model.effect = some "some(where (p_eft == allow))" := by rw [hmodel]; rfl
  have hsize : ¬Model.builtinRequest.length ≠ requestSize := fun h => h rfl
  unfold enforceAs
  simp only [hrequest, hrule, hmatcher, heffect, needed, bind, Except.bind]
  rw [if_neg hsize, hcombination]
  dsimp only
  unfold decisive
  split_ifs with hempty
  · have hfields : Model.builtinRule.map (fun _ => "") = ["", "", "", ""] := rfl
    rw [hfields, matchesFields_builtin hmodel, decideRules, builtinEffect, ruleEffect_builtin hmodel]
    dsimp only
    by_cases hsubject : subject = ""
    · rw [if_pos hsubject, if_pos hsubject]
      cases Pattern.matchesColons resource.toList "".toList with
      | none => rfl
      | some matched =>
        dsimp only
        cases matched && (decide (action = "") || decide ("" = "*")) with
        | false => rfl
        | true => rfl
    · rw [if_neg hsubject, if_neg hsubject]
      rfl
  · rfl

/-! ## Decisions -/

/-- What is allowed is allowed by a rule, under a name of the subject. -/
theorem exists_allows_of_enforce (hmodel : e.model = .builtin) (h : e.enforce subject resource action = .ok true) :
    ∃ rule ∈ e.decisive, e.ActsAs subject rule.subject ∧ rule.Allows rule.subject resource action := by
  obtain ⟨name, hname, hallowed⟩ := exists_of_enforceAny h
  rw [enforceAs_builtin hmodel] at hallowed
  obtain ⟨rule, hrule, heffect⟩ := exists_of_decideRules hallowed
  have hallows := (builtinEffect_eq_allow_iff hmodel).1 heffect
  obtain rfl := hallows.subject_eq
  exact ⟨rule, hrule, mem_names_iff.1 hname, hallows⟩

/-- When the pattern of every rule that decides makes an expression there is a decision, and it is to allow exactly when
such a rule allows it under a name of the subject. -/
theorem enforce_builtin (hmodel : e.model = .builtin)
    (hpatterns : ∀ rule ∈ e.decisive, Pattern.Compiles rule.resource) (subject resource action : String) :
    ∃ allowed, e.enforce subject resource action = .ok allowed ∧
      (allowed = true ↔
        ∃ rule ∈ e.decisive, e.ActsAs subject rule.subject ∧ rule.Allows rule.subject resource action) := by
  have hevaluated (name : String) :
      ∀ rule ∈ e.decisive, ∃ found, e.builtinEffect name resource action rule = .ok found :=
    fun rule hrule => exists_builtinEffect hmodel (hpatterns rule hrule)
  have hdecided : ∀ name ∈ subject :: (e.rolesFor subject).map (·.name),
      ∃ allowed, e.enforceAs name resource action = .ok allowed := by
    intro name _
    obtain ⟨allowed, hallowed, -⟩ := decideRules_of_evaluated (hevaluated name)
    exact ⟨allowed, (enforceAs_builtin hmodel).trans hallowed⟩
  obtain ⟨allowed, henforce, hcomplete⟩ := enforceAny_of_decided hdecided
  refine ⟨allowed, henforce, ?_, ?_⟩
  · rintro rfl
    exact exists_allows_of_enforce hmodel henforce
  · rintro ⟨rule, hrule, hacts, hallows⟩
    refine hcomplete ⟨rule.subject, mem_names_iff.2 hacts, ?_⟩
    obtain ⟨named, hnamed, hallow⟩ := decideRules_of_evaluated (hevaluated rule.subject)
    rw [enforceAs_builtin hmodel, hnamed, hallow ⟨rule, hrule, (builtinEffect_eq_allow_iff hmodel).2 hallows⟩]

/-- After every run an engine with rules, whose patterns all make expressions, decides what its rules permit. -/
theorem enforce_run_ofRules {set : RuleSet} (hrules : set.rules ≠ [])
    (hpatterns : ∀ rule ∈ set.rules, Pattern.Compiles rule.resource) (calls : List Call) (hsubject : subject ≠ "") :
    ∃ allowed, ((ofRules set).run calls).enforce subject resource action = .ok allowed ∧
      (allowed = true ↔ set.Permits ((ofRules set).run calls).groupings subject resource action) := by
  obtain ⟨hmodel, hkept⟩ := run_model_rules (ofRules set) calls
  have hmem (rule : Rule) : rule ∈ ((ofRules set).run calls).rules ↔ rule ∈ set.rules := by
    rw [hkept]
    exact List.mem_eraseDups
  have hsome : ((ofRules set).run calls).rules ≠ [] := by
    obtain ⟨rule, hrule⟩ := List.exists_mem_of_ne_nil _ hrules
    exact List.ne_nil_of_mem ((hmem rule).2 hrule)
  have hdecisive := decisive_of_rules hsome
  obtain ⟨allowed, henforce, hiff⟩ := enforce_builtin hmodel
    (fun rule hrule => hpatterns rule ((hmem rule).1 (hdecisive ▸ hrule))) subject resource action
  refine ⟨allowed, henforce, hiff.trans ?_⟩
  rw [hdecisive]
  refine exists_congr fun rule => ?_
  rw [hmem, ActsAs, mem_rolesFor hsubject]
  constructor
  · rintro ⟨hrule, hacts, heffect, -, hmatched, haction⟩
    exact ⟨hrule, heffect, hacts, hmatched, haction⟩
  · rintro ⟨hrule, heffect, hacts, hmatched, haction⟩
    exact ⟨hrule, hacts, heffect, rfl, hmatched, haction⟩

/-- Let an engine of the built-in model have some rules, whose patterns the engine for regular expressions, whatever it
is, all compiles. After every run every request of a subject that is not empty is decided, and what is allowed is
exactly what the rules permit the subject with its groupings at that time. So an engine with the same rules that allow
decides alike, in whatever order these are and whatever other rules deny, as long as the subject has the same roles
there, in any order and whatever groupings the roles have. -/
theorem enforce_run_eq_ok_iff {set : RuleSet} (hrules : set.rules ≠ [])
    (hpatterns : ∀ rule ∈ set.rules, Pattern.Compiles rule.resource) :
    ∃ engine, build (.ok defaultModelText) (fun () => .ok set) = .ok engine ∧
      ∀ (calls : List Call) (subject resource action : String), subject ≠ "" →
        (∃ allowed, (engine.run calls).enforce subject resource action = .ok allowed ∧
          (allowed = true ↔ set.Permits (engine.run calls).groupings subject resource action)) ∧
        ∀ (set' : RuleSet) (engine' : Engine) (calls' : List Call), set'.rules ≠ [] →
          (∀ rule ∈ set'.rules, Pattern.Compiles rule.resource) →
          (∀ rule : Rule, rule.effect = .allow → (rule ∈ set.rules ↔ rule ∈ set'.rules)) →
          build (.ok defaultModelText) (fun () => .ok set') = .ok engine' →
          (∀ role, ⟨subject, role⟩ ∈ (engine.run calls).groupings ↔ ⟨subject, role⟩ ∈ (engine'.run calls').groupings) →
          (engine.run calls).enforce subject resource action =
            (engine'.run calls').enforce subject resource action := by
  refine ⟨ofRules set, build_default _, fun calls subject resource action hsubject => ?_⟩
  obtain ⟨allowed, henforce, hiff⟩ := enforce_run_ofRules hrules hpatterns calls hsubject
  refine ⟨⟨allowed, henforce, hiff⟩, ?_⟩
  intro set' engine' calls' hrules' hpatterns' hsame hbuild hroles
  rw [build_default] at hbuild
  obtain rfl := Except.ok.inj hbuild
  obtain ⟨allowed', henforce', hiff'⟩ := enforce_run_ofRules hrules' hpatterns' calls' hsubject
  have hequal : allowed = allowed' := by
    rw [Bool.eq_iff_iff, hiff, hiff']
    exact RuleSet.permits_congr hsame hroles resource action
  rw [henforce, henforce', hequal]

end Decision

/-- A player who became a coach may change a team, whatever else coaches and players may not do. -/
theorem enforce_run_of_coach :
    let set : RuleSet :=
      ⟨[⟨"player", "/teams/:id", "PUT", .deny⟩, ⟨"coach", "/teams/:id", "*", .allow⟩,
        ⟨"coach", "/teams/*", "PUT", .deny⟩],
        [⟨"bob", ⟨"player"⟩⟩]⟩
    ∃ engine, build (.ok defaultModelText) (fun () => .ok set) = .ok engine ∧
      (engine.run [.ensureRoles "bob" [⟨"coach"⟩]]).enforce "bob" "/teams/7" "PUT" = .ok true := by
  intro set
  have hpatterns : ∀ rule ∈ set.rules, Pattern.Compiles rule.resource := by decide +kernel
  obtain ⟨engine, hbuild, hdecides⟩ := enforce_run_eq_ok_iff (List.cons_ne_nil _ _) hpatterns
  obtain ⟨⟨allowed, henforce, hiff⟩, -⟩ :=
    hdecides [.ensureRoles "bob" [⟨"coach"⟩]] "bob" "/teams/7" "PUT" (by decide)
  have hcoach : ⟨"bob", ⟨"coach"⟩⟩ ∈ (engine.run [.ensureRoles "bob" [⟨"coach"⟩]]).groupings := by
    rw [build_default] at hbuild
    obtain rfl := Except.ok.inj hbuild
    exact (mem_groupings_run rfl _).2 (Or.inr ⟨[⟨"coach"⟩], List.mem_cons_self, List.mem_cons_self⟩)
  have hpermits : set.Permits (engine.run [.ensureRoles "bob" [⟨"coach"⟩]]).groupings "bob" "/teams/7" "PUT" := by
    refine ⟨⟨"coach", "/teams/:id", "*", .allow⟩, by decide, rfl, Or.inr hcoach, ?_, Or.inr rfl⟩
    decide +kernel
  refine ⟨engine, hbuild, ?_⟩
  rw [henforce, hiff.2 hpermits]

end Engine

end Policy

end Gatehouse
