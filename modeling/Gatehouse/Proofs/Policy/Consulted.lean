import Mathlib
import Gatehouse.Proofs.Policy.Precedence

/-!
# The rules that a decision comes to

Under the built-in model a decision looks at the rules of each name of a subject in turn (`Engine.consulted`). It ends at
the first of them that allows the request or whose pattern makes no expression. In the second case there is no decision
and no error either: the evaluation crashes (`Engine.enforce_eq_crash_iff`). Otherwise there is always a decision.
-/

namespace Gatehouse

namespace Policy.Engine

/-! ## Scans of rules -/

section Scan

variable {effect effect' : Rule → Except PolicyFault (Option Effect)} {rules : List Rule}

/-- A scan goes past a rule: the rule can be evaluated, and its effect is not to allow. -/
def Passes (effect : Rule → Except PolicyFault (Option Effect)) (rule : Rule) : Prop :=
  ∃ found, effect rule = .ok found ∧ found ≠ some .allow

/-- A scan goes on behind the rules that it goes past. -/
theorem decideRules_of_passes {before : List Rule} (h : ∀ rule ∈ before, Passes effect rule) (rest : List Rule) :
    decideRules .anyAllow effect false (before ++ rest) = decideRules .anyAllow effect false rest := by
  induction before with
  | nil => rfl
  | cons rule before ih =>
    obtain ⟨found, heffect, hother⟩ := h rule List.mem_cons_self
    have hrest := ih fun r hr => h r (List.mem_cons_of_mem _ hr)
    rw [List.cons_append, decideRules, heffect]
    rcases found with _ | _ | _
    · exact hrest
    · exact absurd rfl hother
    · exact hrest

/-- A scan goes past all rules, or it comes to one that cannot be evaluated or allows. -/
theorem passes_or_ends (effect : Rule → Except PolicyFault (Option Effect)) (rules : List Rule) :
    (∀ rule ∈ rules, Passes effect rule) ∨
      ∃ before rule after, rules = before ++ rule :: after ∧ (∀ earlier ∈ before, Passes effect earlier) ∧
        ((∃ fault, effect rule = .error fault) ∨ effect rule = .ok (some .allow)) := by
  induction rules with
  | nil => exact Or.inl fun rule hrule => absurd hrule List.not_mem_nil
  | cons rule rules ih =>
    have hnone : ∀ earlier ∈ ([] : List Rule), Passes effect earlier := fun r hr => absurd hr List.not_mem_nil
    cases heffect : effect rule with
    | error fault => exact Or.inr ⟨[], rule, rules, rfl, hnone, Or.inl ⟨fault, heffect⟩⟩
    | ok found =>
      by_cases hallow : found = some .allow
      · exact Or.inr ⟨[], rule, rules, rfl, hnone, Or.inr (hallow ▸ heffect)⟩
      · have hpasses : Passes effect rule := ⟨found, heffect, hallow⟩
        rcases ih with hall | ⟨before, last, after, rfl, hbefore, hends⟩
        · exact Or.inl (List.forall_mem_cons.2 ⟨hpasses, hall⟩)
        · exact Or.inr ⟨rule :: before, last, after, rfl, List.forall_mem_cons.2 ⟨hpasses, hbefore⟩, hends⟩

/-- Rules that do not match may be left out. -/
theorem decideRules_filter {p : Rule → Bool} (h : ∀ rule ∈ rules, p rule = false → effect rule = .ok none) :
    decideRules .anyAllow effect false (rules.filter p) = decideRules .anyAllow effect false rules := by
  induction rules with
  | nil => rfl
  | cons rule rules ih =>
    have hrest := ih fun r hr => h r (List.mem_cons_of_mem _ hr)
    cases hp : p rule with
    | false =>
      rw [List.filter_cons_of_neg (by simp [hp]), hrest, decideRules, h rule List.mem_cons_self hp]
    | true =>
      rw [List.filter_cons_of_pos hp, decideRules, decideRules]
      cases effect rule with
      | error fault => rfl
      | ok found =>
        rcases found with _ | _ | _
        · exact hrest
        · rfl
        · exact hrest

/-- Only the effects of the rules themselves count. -/
theorem decideRules_congr (h : ∀ rule ∈ rules, effect rule = effect' rule) :
    decideRules .anyAllow effect false rules = decideRules .anyAllow effect' false rules := by
  induction rules with
  | nil => rfl
  | cons rule rules ih =>
    have hrest := ih fun r hr => h r (List.mem_cons_of_mem _ hr)
    rw [decideRules, decideRules, h rule List.mem_cons_self]
    cases effect' rule with
    | error fault => rfl
    | ok found =>
      rcases found with _ | _ | _
      · exact hrest
      · rfl
      · exact hrest

/-- Of two lists of rules the second is scanned if the first does not allow. -/
theorem decideRules_append (rules others : List Rule) :
    decideRules .anyAllow effect false (rules ++ others) =
      match decideRules .anyAllow effect false rules with
      | .ok false => decideRules .anyAllow effect false others
      | decided => decided := by
  rcases passes_or_ends effect rules with hall | ⟨before, rule, after, rfl, hbefore, hends⟩
  · have hdecided := decideRules_of_passes hall []
    rw [List.append_nil] at hdecided
    rw [decideRules_of_passes hall, hdecided]
    rfl
  · rw [List.append_assoc, decideRules_of_passes hbefore, decideRules_of_passes hbefore, List.cons_append, decideRules,
      decideRules]
    rcases hends with ⟨fault, heffect⟩ | heffect
    · rw [heffect]
    · rw [heffect]
      rfl

end Scan

/-! ## Rules in the order of a decision -/

variable {e : Engine} {subject resource action : String}

/-- The rules that a decision about a subject looks at, in turn: those for the subject itself, and then those for each of
its roles. -/
def consulted (e : Engine) (subject : String) : List Rule :=
  (subject :: (e.rolesFor subject).map (·.name)).flatMap fun name => e.decisive.filter (·.subject = name)

section Decision

variable [Pattern.RegexEngine]

/-- A decision comes to a rule: the rules before it have patterns that make expressions, and none of them allows the
request. -/
def ComesTo (e : Engine) (subject resource action : String) (rule : Rule) : Prop :=
  ∃ before after, e.consulted subject = before ++ rule :: after ∧
    ∀ earlier ∈ before, Pattern.Compiles earlier.resource ∧ ¬earlier.Allows earlier.subject resource action

/-- The effect of a rule on a request of its own subject. -/
def ownEffect (e : Engine) (resource action : String) (rule : Rule) : Except PolicyFault (Option Effect) :=
  e.builtinEffect rule.subject resource action rule

/-- A decision under one name looks at the rules for this name. -/
theorem enforceAs_eq_own (hmodel : e.model = .builtin) (name : String) :
    e.enforceAs name resource action =
      decideRules .anyAllow (e.ownEffect resource action) false (e.decisive.filter (·.subject = name)) := by
  have hothers : ∀ rule ∈ e.decisive, decide (rule.subject = name) = false →
      e.builtinEffect name resource action rule = .ok none := by
    intro rule _ hother
    unfold builtinEffect
    rw [ruleEffect_builtin hmodel, if_neg fun hsame => of_decide_eq_false hother hsame.symm]
  have hown : ∀ rule ∈ e.decisive.filter (·.subject = name),
      e.builtinEffect name resource action rule = e.ownEffect resource action rule := by
    intro rule hrule
    unfold ownEffect
    rw [of_decide_eq_true (List.mem_filter.1 hrule).2]
  rw [enforceAs_builtin hmodel, ← decideRules_filter hothers]
  exact decideRules_congr hown

/-- A decision is a scan of the rules that it looks at. -/
theorem enforce_eq_consulted (hmodel : e.model = .builtin) :
    e.enforce subject resource action =
      decideRules .anyAllow (e.ownEffect resource action) false (e.consulted subject) := by
  unfold enforce consulted
  generalize subject :: (e.rolesFor subject).map (·.name) = names
  induction names with
  | nil => rfl
  | cons name names ih =>
    rw [enforceAny, List.flatMap_cons, decideRules_append, enforceAs_eq_own hmodel]
    cases decideRules .anyAllow (e.ownEffect resource action) false (e.decisive.filter (·.subject = name)) with
    | error fault => rfl
    | ok allowed =>
      cases allowed with
      | true => rfl
      | false => exact ih

/-- A rule whose pattern makes no expression cannot be evaluated for its own subject. -/
theorem ownEffect_eq_crash (hmodel : e.model = .builtin) {rule : Rule} (h : ¬Pattern.Compiles rule.resource) :
    e.ownEffect resource action rule = .error .crash := by
  unfold ownEffect builtinEffect
  rw [ruleEffect_builtin hmodel, if_pos rfl, Pattern.matchesColons_of_not_compiles h]

/-- A rule whose pattern makes an expression can be evaluated for its own subject. -/
theorem exists_ownEffect (hmodel : e.model = .builtin) {rule : Rule} (h : Pattern.Compiles rule.resource)
    (resource action : String) : ∃ found, e.ownEffect resource action rule = .ok found :=
  exists_builtinEffect hmodel h

/-- A scan goes past the rules whose patterns make expressions and that do not allow the request. -/
theorem passes_ownEffect_iff (hmodel : e.model = .builtin) {rule : Rule} :
    Passes (e.ownEffect resource action) rule ↔
      Pattern.Compiles rule.resource ∧ ¬rule.Allows rule.subject resource action := by
  rw [← builtinEffect_eq_allow_iff hmodel]
  constructor
  · rintro ⟨found, heffect, hother⟩
    have hcompiles : Pattern.Compiles rule.resource := by
      by_contra hbroken
      rw [ownEffect_eq_crash hmodel hbroken] at heffect
      cases heffect
    refine ⟨hcompiles, fun hallow => hother ?_⟩
    exact Except.ok.inj (heffect.symm.trans hallow)
  · rintro ⟨hcompiles, hother⟩
    obtain ⟨found, heffect⟩ := exists_ownEffect hmodel hcompiles resource action
    refine ⟨found, heffect, ?_⟩
    rintro rfl
    exact hother heffect

/-- A decision goes on from the rule that it comes to. -/
theorem ComesTo.exists_enforce_eq {rule : Rule} (h : e.ComesTo subject resource action rule)
    (hmodel : e.model = .builtin) :
    ∃ after, e.enforce subject resource action =
      decideRules .anyAllow (e.ownEffect resource action) false (rule :: after) := by
  obtain ⟨before, after, hconsulted, hbefore⟩ := h
  refine ⟨after, ?_⟩
  rw [enforce_eq_consulted hmodel, hconsulted]
  exact decideRules_of_passes (fun earlier hearlier => (passes_ownEffect_iff hmodel).2 (hbefore earlier hearlier)) _

/-- A decision comes to a rule whose pattern makes no expression and crashes, or there is a decision. -/
theorem enforce_cases (hmodel : e.model = .builtin) (subject resource action : String) :
    (∃ rule, e.ComesTo subject resource action rule ∧ ¬Pattern.Compiles rule.resource) ∨
      ∃ allowed, e.enforce subject resource action = .ok allowed := by
  rcases passes_or_ends (e.ownEffect resource action) (e.consulted subject) with
    hall | ⟨before, rule, after, hconsulted, hbefore, hends⟩
  · have hnone := decideRules_of_passes hall []
    rw [List.append_nil, ← enforce_eq_consulted hmodel] at hnone
    exact Or.inr ⟨false, hnone⟩
  · have hcomes : e.ComesTo subject resource action rule :=
      ⟨before, after, hconsulted, fun earlier hearlier => (passes_ownEffect_iff hmodel).1 (hbefore earlier hearlier)⟩
    by_cases hcompiles : Pattern.Compiles rule.resource
    · obtain ⟨after, henforce⟩ := hcomes.exists_enforce_eq hmodel
      obtain ⟨found, hfound⟩ := exists_ownEffect hmodel hcompiles resource action
      have heffect : e.ownEffect resource action rule = .ok (some .allow) := by
        rcases hends with ⟨fault, heffect⟩ | heffect
        · rw [hfound] at heffect
          cases heffect
        · exact heffect
      refine Or.inr ⟨true, ?_⟩
      rw [henforce, decideRules, heffect]
      rfl
    · exact Or.inl ⟨rule, hcomes, hcompiles⟩

/-- A decision crashes exactly when it comes to a rule whose pattern makes no expression. -/
theorem enforce_eq_crash_iff (hmodel : e.model = .builtin) (subject resource action : String) :
    e.enforce subject resource action = .error .crash ↔
      ∃ rule, e.ComesTo subject resource action rule ∧ ¬Pattern.Compiles rule.resource := by
  constructor
  · intro h
    rcases enforce_cases hmodel subject resource action with hbroken | ⟨allowed, hallowed⟩
    · exact hbroken
    · rw [h] at hallowed
      cases hallowed
  · rintro ⟨rule, hcomes, hbroken⟩
    obtain ⟨after, henforce⟩ := hcomes.exists_enforce_eq hmodel
    rw [henforce, decideRules, ownEffect_eq_crash hmodel hbroken]

end Decision

/-! ## Engines that are built -/

/-- An engine of the built-in model has this model after every run. -/
theorem model_run_of_build {source : Unit → Except ServiceError RuleSet} {engine : Engine}
    (hbuild : build (.ok defaultModelText) source = .ok engine) (calls : List Call) :
    (engine.run calls).model = .builtin := by
  obtain ⟨set, -, rfl⟩ := exists_of_build hbuild
  exact (run_model_rules _ calls).1

/-- The rules of the engine of a text are the leading rules of the text. -/
theorem mem_rules_run_iff {text : String} {engine : Engine} {rule : Rule}
    (hbuild : build (.ok defaultModelText) (fun () => RuleSet.ofText text) = .ok engine) (calls : List Call) :
    rule ∈ (engine.run calls).rules ↔ rule.Leads (RuleSet.statedRules text) := by
  obtain ⟨set, htext, rfl⟩ := exists_of_build hbuild
  have hrules : (ofRules set).rules = set.rules.eraseDups := rfl
  rw [(run_model_rules _ calls).2, hrules, List.mem_eraseDups, RuleSet.rules_ofText htext, mem_leading_iff]

/-- A rule that a decision comes to, and whose pattern makes no expression, is one of the engine's rules. -/
theorem ComesTo.mem_rules [Pattern.RegexEngine] [Pattern.LawfulRegexEngine] {rule : Rule}
    (h : e.ComesTo subject resource action rule) (hbroken : ¬Pattern.Compiles rule.resource) : rule ∈ e.rules := by
  obtain ⟨before, after, hconsulted, -⟩ := h
  have hmem : rule ∈ e.consulted subject := hconsulted ▸ List.mem_append_right before List.mem_cons_self
  obtain ⟨name, -, hrule⟩ := List.mem_flatMap.1 hmem
  have hdecisive := (List.mem_filter.1 hrule).1
  unfold decisive at hdecisive
  split_ifs at hdecisive
  · obtain rfl := List.mem_singleton.1 hdecisive
    exact absurd Pattern.compiles_empty hbroken
  · exact hdecisive

end Policy.Engine

end Gatehouse
