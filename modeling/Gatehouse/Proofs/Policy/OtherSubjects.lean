import Mathlib
import Gatehouse.Proofs.Policy.Consulted

/-!
# What a registration does to other subjects

Under the built-in model the roles of a subject and the decisions about it depend on its own groupings, and on the rules
for it and for its roles (`AgreesOn.rolesFor_eq`, `AgreesOn.enforce_eq`). A registration for one subject leaves these
alone for every other, and so changes nothing for it. The empty subject is the exception: it stands for all groupings in
a lookup, has the roles of every subject, and gains each role that anyone gains.
-/

namespace Gatehouse

namespace Policy.Engine

variable {e e' : Engine} {subject other name resource action : String} {roles : List Role}

/-! ## Decisions about names -/

/-- The effect of a rule under the built-in model does not depend on the engine. -/
theorem ownEffect_congr [Pattern.RegexEngine] (hmodel : e.model = .builtin) (hmodel' : e'.model = .builtin)
    (rule : Rule) : e.ownEffect resource action rule = e'.ownEffect resource action rule := by
  unfold ownEffect builtinEffect
  rw [ruleEffect_builtin hmodel, ruleEffect_builtin hmodel']

/-- Engines with the same rules for a name decide alike about this name. -/
theorem enforceAs_congr [Pattern.RegexEngine] (hmodel : e.model = .builtin) (hmodel' : e'.model = .builtin)
    (hrules : e'.decisive.filter (·.subject = name) = e.decisive.filter (·.subject = name)) :
    e'.enforceAs name resource action = e.enforceAs name resource action := by
  rw [enforceAs_eq_own hmodel, enforceAs_eq_own hmodel', hrules]
  exact decideRules_congr fun rule _ => ownEffect_congr hmodel' hmodel rule

section Names

variable [Pattern.RegexEngine] {names : List String}

/-- Engines that decide alike about each of some names decide alike about all of them. -/
theorem enforceAny_congr
    (h : ∀ name ∈ names, e'.enforceAs name resource action = e.enforceAs name resource action) :
    e'.enforceAny resource action names = e.enforceAny resource action names := by
  induction names with
  | nil => rfl
  | cons name names ih =>
    have hrest := ih fun n hn => h n (List.mem_cons_of_mem _ hn)
    rw [enforceAny, enforceAny, h name List.mem_cons_self, hrest]

/-- Of two lists of names the second is looked at if the first is not allowed. -/
theorem enforceAny_append (names others : List String) :
    e.enforceAny resource action (names ++ others) =
      match e.enforceAny resource action names with
      | .ok false => e.enforceAny resource action others
      | decided => decided := by
  induction names with
  | nil => rfl
  | cons name names ih =>
    rw [List.cons_append, enforceAny, enforceAny]
    cases e.enforceAs name resource action with
    | error fault => rfl
    | ok allowed =>
      cases allowed with
      | true => rfl
      | false => exact ih

/-- Names are not allowed when none of them is. -/
theorem enforceAny_eq_false_iff :
    e.enforceAny resource action names = .ok false ↔ ∀ name ∈ names, e.enforceAs name resource action = .ok false := by
  induction names with
  | nil => simp [enforceAny]
  | cons name names ih =>
    rw [enforceAny, List.forall_mem_cons, ← ih]
    cases e.enforceAs name resource action with
    | error fault => simp
    | ok allowed => cases allowed <;> simp

end Names

/-! ## What concerns a subject -/

/-- Two engines agree on a subject: they have the same groupings for it, in the same order, and the same rules for it
and for each of its roles; and either both have rules or neither. -/
structure AgreesOn (e e' : Engine) (subject : String) : Prop where
  model_eq : e'.model = e.model
  groupings_eq : e'.groupings.filter (·.subject = subject) = e.groupings.filter (·.subject = subject)
  rules_eq : ∀ name, name = subject ∨ ⟨subject, ⟨name⟩⟩ ∈ e.groupings →
    e'.rules.filter (·.subject = name) = e.rules.filter (·.subject = name)
  rules_nil_iff : e'.rules = [] ↔ e.rules = []

/-- Engines that agree on a subject know the same roles of it. -/
theorem AgreesOn.rolesFor_eq (h : e.AgreesOn e' subject) (hsubject : subject ≠ "") :
    e'.rolesFor subject = e.rolesFor subject := by
  rw [Engine.rolesFor_eq hsubject, Engine.rolesFor_eq hsubject, rolesOf, rolesOf, h.groupings_eq]

/-- Engines that agree on a subject have the same rules to decide about each of its names. -/
theorem AgreesOn.decisive_eq (h : e.AgreesOn e' subject) (hname : name = subject ∨ ⟨subject, ⟨name⟩⟩ ∈ e.groupings) :
    e'.decisive.filter (·.subject = name) = e.decisive.filter (·.subject = name) := by
  unfold decisive
  simp only [List.isEmpty_iff, h.rules_nil_iff]
  split_ifs
  · rfl
  · exact h.rules_eq name hname

/-- Engines that agree on a subject decide alike about it. -/
theorem AgreesOn.enforce_eq [Pattern.RegexEngine] (h : e.AgreesOn e' subject) (hmodel : e.model = .builtin)
    (hsubject : subject ≠ "") (resource action : String) :
    e'.enforce subject resource action = e.enforce subject resource action := by
  unfold enforce
  rw [h.rolesFor_eq hsubject]
  refine enforceAny_congr fun name hname => ?_
  refine enforceAs_congr hmodel (h.model_eq.trans hmodel) (h.decisive_eq ?_)
  rcases mem_names_iff.1 hname with hself | hrole
  · exact Or.inl hself
  · exact Or.inr ((mem_rolesFor hsubject).1 hrole)

/-- A registration for another subject leaves alone what concerns a subject. -/
theorem agreesOn_ensureRoles (hmodel : e.model = .builtin) (hother : other ≠ subject) (roles : List Role) :
    e.AgreesOn (e.ensureRoles other roles).1 subject := by
  have hgroupings : (e.groupings ++ e.missing other roles).filter (·.subject = subject) =
      e.groupings.filter (·.subject = subject) := by
    rw [List.filter_append, filter_missing_of_ne hother, List.append_nil]
  rw [ensureRoles_builtin hmodel]
  exact ⟨rfl, hgroupings, fun _ _ => rfl, Iff.rfl⟩

/-! ## The empty subject -/

/-- A registration gives the empty subject what is missing. -/
theorem rolesFor_empty_ensureRoles (hmodel : e.model = .builtin) (other : String) (roles : List Role) :
    (e.ensureRoles other roles).1.rolesFor "" = e.rolesFor "" ++ (e.missing other roles).map (·.role) := by
  rw [ensureRoles_builtin hmodel]
  unfold rolesFor groupingsOf
  rw [List.filter_append, List.map_append]
  simp

/-- What holds of all the missing groupings holds of each of the roles that the subject does not have. -/
theorem forall_mem_missing_iff (hother : other ≠ "") {p : Role → Prop} :
    (∀ g ∈ e.missing other roles, p g.role) ↔ ∀ role ∈ roles, role ∈ e.rolesFor other ∨ p role := by
  constructor
  · intro h role hrole
    by_cases hthere : ⟨other, role⟩ ∈ e.groupings
    · exact Or.inl ((mem_rolesFor hother).2 hthere)
    · exact Or.inr (h ⟨other, role⟩ (mem_missing.2 ⟨rfl, hrole, hthere⟩))
  · intro h g hg
    obtain ⟨rfl, hrole, hnew⟩ := mem_missing.1 hg
    exact (h g.role hrole).resolve_left fun hthere => hnew ((mem_rolesFor hother).1 hthere)

/-- The roles of the empty subject stay the same only if nothing is missing. -/
theorem rolesFor_empty_ensureRoles_eq_iff (hmodel : e.model = .builtin) (hother : other ≠ "") :
    (e.ensureRoles other roles).1.rolesFor "" = e.rolesFor "" ↔ ∀ role ∈ roles, role ∈ e.rolesFor other := by
  have hnone := @forall_mem_missing_iff e other roles hother fun _ => False
  simp only [or_false] at hnone
  rw [rolesFor_empty_ensureRoles hmodel, List.append_right_eq_self, List.map_eq_nil_iff, ← hnone,
    List.eq_nil_iff_forall_not_mem]

/-- After a registration the empty subject is decided about as before, and if it was not allowed, about each of the new
roles. -/
theorem enforce_empty_ensureRoles [Pattern.RegexEngine] (hmodel : e.model = .builtin) (other : String)
    (roles : List Role) :
    (e.ensureRoles other roles).1.enforce "" resource action =
      match e.enforce "" resource action with
      | .ok false => e.enforceAny resource action ((e.missing other roles).map (·.role.name))
      | decided => decided := by
  obtain ⟨hmodel', hrules⟩ := ensureRoles_model_rules e other roles
  have hsame (name : String) : (e.ensureRoles other roles).1.enforceAs name resource action =
      e.enforceAs name resource action := by
    refine enforceAs_congr hmodel (hmodel'.trans hmodel) ?_
    unfold decisive
    rw [hrules]
  unfold enforce
  rw [rolesFor_empty_ensureRoles hmodel, enforceAny_congr fun name _ => hsame name, List.map_append, ← List.cons_append,
    enforceAny_append, List.map_map]
  rfl

/-- The decision about the empty subject stays the same if it was made before the last role, or if each of the new roles
is decided about and not allowed. -/
theorem enforce_empty_ensureRoles_eq_iff [Pattern.RegexEngine] (hmodel : e.model = .builtin) (hother : other ≠ "") :
    (e.ensureRoles other roles).1.enforce "" resource action = e.enforce "" resource action ↔
      e.enforce "" resource action ≠ .ok false ∨
        ∀ role ∈ roles, role ∈ e.rolesFor other ∨ e.enforceAs role.name resource action = .ok false := by
  rw [enforce_empty_ensureRoles hmodel,
    ← @forall_mem_missing_iff e other roles hother fun role => e.enforceAs role.name resource action = .ok false]
  cases e.enforce "" resource action with
  | error fault => simp
  | ok allowed =>
    cases allowed with
    | true => simp
    | false =>
      simp only [ne_eq, not_true_eq_false, false_or]
      rw [enforceAny_eq_false_iff, List.forall_mem_map]

/-! ## Where permissions come from -/

/-- What a subject is allowed it is allowed by a rule for it or for one of its own roles. Only where there are no rules
at all is a role without a name allowed something: an action without a name on a resource without a name. -/
theorem allowed_cases [Pattern.RegexEngine] [Pattern.LawfulRegexEngine] (hmodel : e.model = .builtin)
    (hsubject : subject ≠ "") (h : e.enforce subject resource action = .ok true) :
    (∃ rule ∈ e.rules, (rule.subject = subject ∨ ⟨subject, ⟨rule.subject⟩⟩ ∈ e.groupings) ∧
        rule.Allows rule.subject resource action) ∨
      e.rules = [] ∧ ⟨subject, ⟨""⟩⟩ ∈ e.groupings ∧ resource = "" ∧ action = "" := by
  obtain ⟨rule, hrule, hacts, hallows⟩ := exists_allows_of_enforce hmodel h
  have hown : rule.subject = subject ∨ ⟨subject, ⟨rule.subject⟩⟩ ∈ e.groupings :=
    hacts.imp_right (mem_rolesFor hsubject).1
  by_cases hrules : e.rules = []
  · unfold decisive at hrule
    rw [if_pos (List.isEmpty_iff.2 hrules), List.mem_singleton] at hrule
    subst hrule
    have hresource : resource.toList = [] := by
      have hmatched := hallows.resource_matches
      rw [Pattern.matchesColons_empty] at hmatched
      exact List.isEmpty_iff.1 (Option.some.inj hmatched)
    have haction : "" = action := hallows.action_eq.resolve_right (by decide)
    exact Or.inr ⟨hrules, hown.resolve_left fun hself => hsubject hself.symm, String.toList_eq_nil_iff.1 hresource,
      haction.symm⟩
  · rw [decisive_of_rules hrules] at hrule
    exact Or.inl ⟨rule, hrule, hown, hallows⟩

/-- In every run of an engine of the built-in model, a registration for one subject changes neither the roles of another
nor any decision about it, unless the other is the empty subject. This one gains the roles that are registered: its
roles change exactly when one of them is new, and a decision about it changes exactly when it was to deny and one of the
new roles is allowed, or crashes. What a subject that is not empty is allowed depends on its own groupings and on the
rules for it and for its roles alone, and one of these rules allows it if there are any rules. -/
theorem ensureRoles_others_iff [Pattern.RegexEngine] [Pattern.LawfulRegexEngine]
    {source : Unit → Except ServiceError RuleSet} {engine : Engine}
    (hbuild : build (.ok defaultModelText) source = .ok engine) (calls : List Call) {subject other : String}
    (hother : other ≠ subject) (roles : List Role) :
    let before := engine.run calls
    let after := (before.ensureRoles other roles).1
    (after.rolesFor subject = before.rolesFor subject ↔
      subject ≠ "" ∨ ∀ role ∈ roles, role ∈ before.rolesFor other) ∧
    (∀ resource action, after.enforce subject resource action = before.enforce subject resource action ↔
      subject ≠ "" ∨ before.enforce "" resource action ≠ .ok false ∨
        ∀ role ∈ roles, role ∈ before.rolesFor other ∨ before.enforceAs role.name resource action = .ok false) ∧
    (subject ≠ "" → ∀ resource action,
      (∀ engine' : Engine, before.AgreesOn engine' subject → engine'.rolesFor subject = before.rolesFor subject ∧
        engine'.enforce subject resource action = before.enforce subject resource action) ∧
      (before.enforce subject resource action = .ok true →
        (∃ rule ∈ before.rules, (rule.subject = subject ∨ ⟨subject, ⟨rule.subject⟩⟩ ∈ before.groupings) ∧
          rule.Allows rule.subject resource action) ∨
        before.rules = [] ∧ ⟨subject, ⟨""⟩⟩ ∈ before.groupings ∧ resource = "" ∧ action = "")) := by
  intro before after
  have hmodel : before.model = .builtin := model_run_of_build hbuild calls
  by_cases hsubject : subject = ""
  · subst hsubject
    refine ⟨?_, fun resource action => ?_, fun hne => absurd rfl hne⟩
    · rw [rolesFor_empty_ensureRoles_eq_iff hmodel hother]
      simp
    · rw [enforce_empty_ensureRoles_eq_iff hmodel hother]
      simp
  · have hagrees : before.AgreesOn after subject := agreesOn_ensureRoles hmodel hother roles
    refine ⟨iff_of_true (hagrees.rolesFor_eq hsubject) (Or.inl hsubject), fun resource action => ?_,
      fun _ resource action => ⟨fun engine' h => ?_, allowed_cases hmodel hsubject⟩⟩
    · exact iff_of_true (hagrees.enforce_eq hmodel hsubject resource action) (Or.inl hsubject)
    · exact ⟨h.rolesFor_eq hsubject, h.enforce_eq hmodel hsubject resource action⟩

/-- When bob becomes a coach nothing changes for alice, but the empty subject becomes a coach with him. -/
theorem ensureRoles_others_of_bob :
    ∃ engine, build (.ok defaultModelText) (fun () => RuleSet.ofText "p, coach, /teams, GET") = .ok engine ∧
      let after := (engine.ensureRoles "bob" [⟨"coach"⟩]).1
      after.rolesFor "alice" = engine.rolesFor "alice" ∧
        after.enforce "alice" "/teams" "GET" = engine.enforce "alice" "/teams" "GET" ∧
        after.rolesFor "" ≠ engine.rolesFor "" ∧
        after.enforce "" "/teams" "GET" ≠ engine.enforce "" "/teams" "GET" := by
  let rules : RuleSet := ⟨[⟨"coach", "/teams", "GET", .allow⟩], []⟩
  have htext : RuleSet.ofText "p, coach, /teams, GET" = .ok rules := by decide +kernel
  have hbuild : build (.ok defaultModelText) (fun () => RuleSet.ofText "p, coach, /teams, GET") =
      .ok (ofRules rules) := by
    rw [build_default, htext]
    rfl
  have hdenied : (ofRules rules).enforce "" "/teams" "GET" = .ok false :=
    Outcome.toOption_eq_some_iff.1 (by decide +kernel)
  have hcoach : (ofRules rules).enforceAs "coach" "/teams" "GET" = .ok true :=
    Outcome.toOption_eq_some_iff.1 (by decide +kernel)
  have hnew : ⟨"coach"⟩ ∉ (ofRules rules).rolesFor "bob" := by decide +kernel
  obtain ⟨hroles, hdecisions, -⟩ :=
    ensureRoles_others_iff hbuild [] (show "bob" ≠ "alice" by decide) [⟨"coach"⟩]
  obtain ⟨hroles', hdecisions', -⟩ := ensureRoles_others_iff hbuild [] (show "bob" ≠ "" by decide) [⟨"coach"⟩]
  refine ⟨ofRules rules, hbuild, hroles.2 (Or.inl (by decide)), (hdecisions _ _).2 (Or.inl (by decide)), ?_, ?_⟩
  · intro hsame
    rcases hroles'.1 hsame with hempty | hthere
    · exact hempty rfl
    · exact hnew (hthere _ List.mem_cons_self)
  · intro hsame
    rcases (hdecisions' _ _).1 hsame with hempty | hother | hall
    · exact hempty rfl
    · exact hother hdenied
    · rcases hall _ List.mem_cons_self with hthere | hcoach'
      · exact hnew hthere
      · have hboth := hcoach.symm.trans hcoach'
        cases hboth

end Policy.Engine

end Gatehouse
