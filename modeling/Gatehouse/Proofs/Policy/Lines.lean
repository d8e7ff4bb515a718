import Mathlib
import Gatehouse.Policy.Rule
import Gatehouse.Proofs.Outcome

/-!
# The rules and groupings of a text

A line states a rule when it is no comment and has four or five fields, the first of which is the letter `p` and the
next three of which are not empty; it states a grouping when it has three fields, the first of which is the letter `g`.
A text that is read has the groupings that its lines state, each once, in the order of the text
(`RuleSet.groupings_ofText`), and of the rules that its lines state those that lead, the first for each subject,
resource and action (`RuleSet.rules_ofText`).
-/

namespace Gatehouse.Policy

/-! ## What a line states -/

/-- The rule with some fields, unless one of them is empty. -/
def Rule.ofParts? (subject resource action : String) (effect : Effect) : Option Rule :=
  if subject = "" ∨ resource = "" ∨ action = "" then none else some ⟨subject, resource, action, effect⟩

/-- The rule that the fields of a line state: to allow, if they name no effect. -/
def Rule.ofFields? : List String → Option Rule
  | ["p", subject, resource, action] => ofParts? subject resource action .allow
  | ["p", subject, resource, action, effect] =>
    (Effect.ofName effect).toOption.bind fun effect => ofParts? subject resource action effect
  | _ => none

/-- The rule that a line states. -/
def Rule.ofLine? (line : List Char) : Option Rule :=
  let line := Text.trim line
  if line.head? = some '#' then none else Rule.ofFields? (RuleSet.fields line)

/-- A rule that some fields state names subject, resource and action. -/
theorem Rule.names_of_ofFields? {fields : List String} {r : Rule} (h : ofFields? fields = some r) :
    r.subject ≠ "" ∧ r.resource ≠ "" ∧ r.action ≠ "" := by
  have hparts : ∃ subject resource action effect, ofParts? subject resource action effect = some r := by
    unfold ofFields? at h
    split at h
    · exact ⟨_, _, _, _, h⟩
    · obtain ⟨effect, -, h⟩ := Option.bind_eq_some_iff.1 h
      exact ⟨_, _, _, effect, h⟩
    · cases h
  obtain ⟨subject, resource, action, effect, hparts⟩ := hparts
  unfold ofParts? at hparts
  split_ifs at hparts with hempty
  obtain rfl := Option.some.inj hparts
  simpa only [not_or] using hempty

/-- A rule that a line states names subject, resource and action. -/
theorem Rule.names_of_ofLine? {line : List Char} {r : Rule} (h : ofLine? line = some r) :
    r.subject ≠ "" ∧ r.resource ≠ "" ∧ r.action ≠ "" := by
  unfold ofLine? at h
  dsimp only at h
  split_ifs at h
  exact names_of_ofFields? h

/-- The grouping that the fields of a line state. -/
def Grouping.ofFields? : List String → Option Grouping
  | ["g", subject, role] => some ⟨subject, ⟨role⟩⟩
  | _ => none

/-- The grouping that a line states. -/
def Grouping.ofLine? (line : List Char) : Option Grouping :=
  let line := Text.trim line
  if line.head? = some '#' then none else Grouping.ofFields? (RuleSet.fields line)

/-- A line that states a rule states no grouping. -/
theorem Grouping.ofLine?_of_rule {line : List Char} {r : Rule} (h : Rule.ofLine? line = some r) :
    ofLine? line = none := by
  unfold Rule.ofLine? at h
  unfold ofLine?
  dsimp only at h ⊢
  split_ifs at h with hcomment
  rw [if_neg hcomment]
  unfold Rule.ofFields? at h
  split at h
  · next hfields => rw [hfields]; rfl
  · next hfields => rw [hfields]; rfl
  · cases h

/-! ## Rules that lead -/

/-- What a rule is about. -/
def Rule.target (r : Rule) : String × String × String := (r.subject, r.resource, r.action)

/-- Rules are about the same when their subject, resource and action are. -/
theorem Rule.sameTarget_iff {r s : Rule} : r.sameTarget s = true ↔ r.target = s.target := by
  simp only [Rule.sameTarget, target, Bool.and_eq_true, decide_eq_true_eq, Prod.mk.injEq, and_assoc]

/-- A rule stands before all others of a list that are about the same. -/
def Rule.Leads (r : Rule) (rules : List Rule) : Prop :=
  ∃ before after, rules = before ++ r :: after ∧ ∀ earlier ∈ before, earlier.target ≠ r.target

/-- A rule that leads stands in the list. -/
theorem Rule.Leads.mem {r : Rule} {rules : List Rule} (h : r.Leads rules) : r ∈ rules := by
  obtain ⟨before, after, rfl, -⟩ := h
  exact List.mem_append_right before List.mem_cons_self

/-- Of two lists of rules, one behind the other, the leading rules are those of the first, and those of the second that
are about something else than the rules of the first. -/
theorem Rule.leads_append {r : Rule} {rules others : List Rule} :
    r.Leads (rules ++ others) ↔ r.Leads rules ∨ r.Leads others ∧ ∀ earlier ∈ rules, earlier.target ≠ r.target := by
  constructor
  · rintro ⟨before, after, hrules, hfirst⟩
    rcases List.append_eq_append_iff.1 hrules with ⟨skipped, rfl, hothers⟩ | ⟨kept, rfl, hafter⟩
    · refine Or.inr ⟨⟨skipped, after, hothers, fun s hs => hfirst s (List.mem_append_right _ hs)⟩, ?_⟩
      exact fun s hs => hfirst s (List.mem_append_left _ hs)
    · cases kept with
      | nil =>
        refine Or.inr ⟨⟨[], after, hafter.symm, fun s hs => absurd hs List.not_mem_nil⟩, ?_⟩
        rw [List.append_nil]
        exact hfirst
      | cons a kept =>
        obtain ⟨rfl, rfl⟩ := List.cons.inj hafter
        exact Or.inl ⟨before, kept, rfl, hfirst⟩
  · rintro (⟨before, after, rfl, hfirst⟩ | ⟨⟨before, after, rfl, hfirst⟩, hnew⟩)
    · exact ⟨before, after ++ others, by simp, hfirst⟩
    · refine ⟨rules ++ before, after, by simp, fun s hs => ?_⟩
      exact (List.mem_append.1 hs).elim (hnew s) (hfirst s)

/-- The only rule of a list leads it. -/
theorem Rule.leads_singleton {r s : Rule} : r.Leads [s] ↔ r = s := by
  constructor
  · intro h
    exact List.mem_singleton.1 h.mem
  · rintro rfl
    exact ⟨[], [], rfl, fun s hs => absurd hs List.not_mem_nil⟩

/-- The rules that lead a list, in its order. -/
def leading (rules : List Rule) : List Rule := rules.eraseDupsBy Rule.sameTarget

/-- One more rule leads when none before it is about the same. -/
theorem leading_concat (s : Rule) : (rules : List Rule) →
    leading (rules ++ [s]) = if rules.any (·.sameTarget s) then leading rules else leading rules ++ [s]
  | [] => rfl
  | a :: rules => by
    have ih := leading_concat s (rules.filter fun b => decide (b.sameTarget a = false))
    unfold leading at ih ⊢
    rw [List.cons_append, List.eraseDupsBy_cons, List.eraseDupsBy_cons, List.filter_append, List.any_cons]
    by_cases hsame : s.target = a.target
    · have hnone : [s].filter (fun b => decide (b.sameTarget a = false)) = [] := by
        simp [Rule.sameTarget_iff.2 hsame]
      rw [hnone, List.append_nil, Rule.sameTarget_iff.2 hsame.symm, Bool.true_or, if_pos rfl]
    · have hother : s.sameTarget a = false := Bool.eq_false_iff.2 fun h => hsame (Rule.sameTarget_iff.1 h)
      have hother' : a.sameTarget s = false := Bool.eq_false_iff.2 fun h => hsame (Rule.sameTarget_iff.1 h).symm
      have hnew : [s].filter (fun b => decide (b.sameTarget a = false)) = [s] := by simp [hother]
      -- The rules that are dropped with the first one are not about what the new one is about.
      have hany : (rules.filter fun b => decide (b.sameTarget a = false)).any (·.sameTarget s) =
          rules.any (·.sameTarget s) := by
        rw [Bool.eq_iff_iff, List.any_eq_true, List.any_eq_true]
        refine exists_congr fun b => and_congr_left fun hb => ?_
        rw [List.mem_filter, decide_eq_true_eq, and_iff_left_iff_imp, Bool.eq_false_iff]
        intro _ hba
        exact hsame ((Rule.sameTarget_iff.1 hb).symm.trans (Rule.sameTarget_iff.1 hba))
      rw [hnew, ih, hany, hother', Bool.false_or]
      split_ifs
      · rfl
      · rfl
termination_by rules => rules.length
decreasing_by exact Nat.lt_succ_of_le (List.length_filter_le _ _)

/-- The leading rules are those that lead. -/
theorem mem_leading_iff {r : Rule} {rules : List Rule} : r ∈ leading rules ↔ r.Leads rules := by
  induction rules using List.reverseRecOn with
  | nil => simp [leading, Rule.Leads]
  | append_singleton rules s ih =>
    rw [leading_concat, Rule.leads_append, Rule.leads_singleton, ← ih]
    by_cases hany : rules.any (·.sameTarget s) = true
    · obtain ⟨earlier, hearlier, hsame⟩ := List.any_eq_true.1 hany
      rw [if_pos hany]
      refine ⟨Or.inl, ?_⟩
      rintro (hr | ⟨rfl, hfirst⟩)
      · exact hr
      · exact (hfirst earlier hearlier (Rule.sameTarget_iff.1 hsame)).elim
    · have hfirst : ∀ earlier ∈ rules, earlier.target ≠ s.target := by
        intro earlier hearlier hsame
        exact hany (List.any_eq_true.2 ⟨earlier, hearlier, Rule.sameTarget_iff.2 hsame⟩)
      rw [if_neg hany, List.mem_append, List.mem_singleton]
      refine or_congr_right ⟨?_, And.left⟩
      rintro rfl
      exact ⟨rfl, hfirst⟩

/-- The leading rules are about the same as all rules. -/
theorem any_leading (s : Rule) (rules : List Rule) :
    (leading rules).any (·.sameTarget s) = rules.any (·.sameTarget s) := by
  induction rules using List.reverseRecOn with
  | nil => rfl
  | append_singleton rules a ih =>
    rw [leading_concat, List.any_append]
    split_ifs with hany
    · obtain ⟨b, hb, hba⟩ := List.any_eq_true.1 hany
      rw [ih, List.any_cons, List.any_nil, Bool.or_false]
      cases hs : a.sameTarget s with
      | false => rw [Bool.or_false]
      | true =>
        rw [Bool.or_true, List.any_eq_true]
        exact ⟨b, hb, Rule.sameTarget_iff.2 ((Rule.sameTarget_iff.1 hba).trans (Rule.sameTarget_iff.1 hs))⟩
    · rw [List.any_append, ih]

/-! ## Reading lines -/

namespace RuleSet

variable {set set' : RuleSet} {number : Nat}

/-- The rules that the lines of a text state. -/
def statedRules (text : String) : List Rule := (Text.lines text.toList).filterMap Rule.ofLine?

/-- The groupings that the lines of a text state, each once. -/
def statedGroupings (text : String) : List Grouping :=
  ((Text.lines text.toList).filterMap Grouping.ofLine?).eraseDups

/-- Adding the rule with some fields adds the rule that they state, if none of them is empty, and else nothing. -/
theorem addRule_cases (set : RuleSet) (subject resource action : String) (effect : Effect) :
    (∃ r, Rule.ofParts? subject resource action effect = some r ∧
      set.addRule ⟨subject, resource, action, effect⟩ = set.addRule r) ∨
    (Rule.ofParts? subject resource action effect = none ∧
      set.addRule ⟨subject, resource, action, effect⟩ = set) := by
  unfold Rule.ofParts?
  by_cases hempty : subject = "" ∨ resource = "" ∨ action = ""
  · rw [if_pos hempty]
    refine Or.inr ⟨rfl, ?_⟩
    unfold addRule
    rw [if_pos]
    simpa [or_assoc] using Or.inl hempty
  · rw [if_neg hempty]
    exact Or.inl ⟨_, rfl, rfl⟩

/-- A line that is read adds the rule or the grouping that it states, if it states one, and nothing else. -/
theorem addLine_cases {line : List Char} (h : set.addLine number line = .ok set') :
    (∃ r, Rule.ofLine? line = some r ∧ Grouping.ofLine? line = none ∧ set' = set.addRule r) ∨
      (∃ g, Rule.ofLine? line = none ∧ Grouping.ofLine? line = some g ∧ set' = set.addGrouping g) ∨
      (Rule.ofLine? line = none ∧ Grouping.ofLine? line = none ∧ set' = set) := by
  unfold addLine at h
  unfold Rule.ofLine? Grouping.ofLine?
  dsimp only at h ⊢
  by_cases hcomment : (Text.trim line).head? = some '#'
  · rw [if_pos (by simp [hcomment])] at h
    obtain rfl := Except.ok.inj h
    rw [if_pos hcomment, if_pos hcomment]
    exact Or.inr (Or.inr ⟨rfl, rfl, rfl⟩)
  rw [if_neg hcomment, if_neg hcomment]
  by_cases hblank : (Text.trim line).isEmpty
  · rw [if_pos (by simp [hblank])] at h
    obtain rfl := Except.ok.inj h
    rw [List.isEmpty_iff.1 hblank]
    exact Or.inr (Or.inr ⟨rfl, rfl, rfl⟩)
  rw [if_neg (by simp [hcomment, hblank])] at h
  generalize fields (Text.trim line) = columns at h
  split at h
  · next subject resource action =>
    obtain rfl := Except.ok.inj h
    rcases set.addRule_cases subject resource action .allow with ⟨r, hr, hset⟩ | ⟨hnone, hset⟩
    · exact Or.inl ⟨r, hr, rfl, hset⟩
    · exact Or.inr (Or.inr ⟨hnone, rfl, hset⟩)
  · next subject resource action word =>
    obtain ⟨effect, heffect, rfl⟩ := Outcome.map_eq_ok_iff.1 h
    have hparts : Rule.ofFields? ["p", subject, resource, action, word] =
        Rule.ofParts? subject resource action effect := by
      change (Effect.ofName word).toOption.bind _ = _
      rw [heffect]
      rfl
    rw [hparts]
    rcases set.addRule_cases subject resource action effect with ⟨r, hr, hset⟩ | ⟨hnone, hset⟩
    · exact Or.inl ⟨r, hr, rfl, hset⟩
    · exact Or.inr (Or.inr ⟨hnone, rfl, hset⟩)
  · exact Or.inr (Or.inl ⟨_, rfl, rfl, (Except.ok.inj h).symm⟩)
  · next rest hrule4 hrule5 =>
    refine Or.inr (Or.inr ⟨?_, ?_, (Except.ok.inj h).symm⟩)
    · unfold Rule.ofFields?
      split
      · next heq => exact (hrule4 _ _ _ (List.cons.inj heq).2).elim
      · next heq => exact (hrule5 _ _ _ _ (List.cons.inj heq).2).elim
      · rfl
    · simp [Grouping.ofFields?]
  · next rest hgrouping =>
    refine Or.inr (Or.inr ⟨?_, ?_, (Except.ok.inj h).symm⟩)
    · simp [Rule.ofFields?]
    · unfold Grouping.ofFields?
      split
      · next heq => exact (hgrouping _ _ (List.cons.inj heq).2).elim
      · rfl
  · cases h
  · exact Or.inr (Or.inr ⟨rfl, rfl, (Except.ok.inj h).symm⟩)

/-- A rule that names subject, resource and action is added to the leading rules if it leads them. -/
theorem addRule_leading {rules : List Rule} {groupings : List Grouping} {r : Rule}
    (h : r.subject ≠ "" ∧ r.resource ≠ "" ∧ r.action ≠ "") :
    addRule ⟨leading rules, groupings⟩ r = ⟨leading (rules ++ [r]), groupings⟩ := by
  obtain ⟨hsubject, hresource, haction⟩ := h
  unfold addRule
  rw [leading_concat, decide_eq_false hsubject, decide_eq_false hresource, decide_eq_false haction, Bool.false_or,
    Bool.false_or, Bool.false_or]
  dsimp only
  rw [any_leading]
  split_ifs
  · rfl
  · rfl

/-- A grouping is added behind the others, once. -/
theorem addGrouping_eraseDups {rules : List Rule} {groupings : List Grouping} (g : Grouping) :
    addGrouping ⟨rules, groupings.eraseDups⟩ g = ⟨rules, (groupings ++ [g]).eraseDups⟩ := by
  unfold addGrouping
  dsimp only
  rw [List.eraseDups_append]
  by_cases hmem : g ∈ groupings
  · have hnothing : [g].removeAll groupings = [] := by simp [List.removeAll, hmem]
    rw [if_pos (List.mem_eraseDups.2 hmem), hnothing, List.eraseDups_nil, List.append_nil]
  · have hnew : [g].removeAll groupings = [g] := by simp [List.removeAll, hmem]
    rw [if_neg fun h => hmem (List.mem_eraseDups.1 h), hnew]
    rfl

/-- The leading rules and the distinct groupings that some lines state. -/
def ofLines (lines : List (List Char)) : RuleSet :=
  ⟨leading (lines.filterMap Rule.ofLine?), (lines.filterMap Grouping.ofLine?).eraseDups⟩

/-- One more line that is read adds what it states. -/
theorem addLine_ofLines {before : List (List Char)} {line : List Char}
    (h : (ofLines before).addLine number line = .ok set) : set = ofLines (before ++ [line]) := by
  unfold ofLines
  rw [List.filterMap_append, List.filterMap_append]
  rcases addLine_cases h with ⟨r, hr, hg, rfl⟩ | ⟨g, hr, hg, rfl⟩ | ⟨hr, hg, rfl⟩
  · rw [List.filterMap_cons_some hr, List.filterMap_cons_none hg, List.filterMap_nil, List.filterMap_nil,
      List.append_nil]
    exact addRule_leading (Rule.names_of_ofLine? hr)
  · rw [List.filterMap_cons_none hr, List.filterMap_cons_some hg, List.filterMap_nil, List.filterMap_nil,
      List.append_nil]
    exact addGrouping_eraseDups g
  · rw [List.filterMap_cons_none hr, List.filterMap_cons_none hg, List.filterMap_nil, List.filterMap_nil,
      List.append_nil, List.append_nil]
    rfl

/-- Lines that are read add what they state. -/
theorem addLines_ofLines {before lines : List (List Char)} (h : (ofLines before).addLines number lines = .ok set) :
    set = ofLines (before ++ lines) := by
  induction lines generalizing number before with
  | nil =>
    obtain rfl := Except.ok.inj h
    rw [List.append_nil]
  | cons line lines ih =>
    rw [addLines] at h
    split at h
    · next next hline =>
      obtain rfl := addLine_ofLines hline
      rw [ih h, List.append_assoc, List.singleton_append]
    · cases h

/-- A text that is read has the leading ones of the rules that its lines state. -/
theorem rules_ofText {text : String} (h : ofText text = .ok set) : set.rules = leading (statedRules text) :=
  congrArg rules (@addLines_ofLines set 1 [] _ h)

/-- A text that is read has the groupings that its lines state. -/
theorem groupings_ofText {text : String} (h : ofText text = .ok set) : set.groupings = statedGroupings text :=
  congrArg groupings (@addLines_ofLines set 1 [] _ h)

end RuleSet

end Gatehouse.Policy
