import Mathlib
import Gatehouse.Proofs.Policy.Decision

/-!
# From the lines of a policy to its decisions

Of the lines about one subject, resource and action only the first counts. So an engine allows what is allowed by a
line that comes first among these, to its subject or to a role of the text (`Engine.enforce_of_text`). The order of the
lines does not matter otherwise, and a line that denies takes away no more than what a later line about the very same
would give.
-/

namespace Gatehouse.Policy

open RuleSet (ofText statedRules statedGroupings)

/-- The lines of a text permit a subject to do something with a resource: a leading rule allows it to the subject itself
or to a role that a line gives to the subject. -/
def TextPermits [Pattern.RegexEngine] (text subject resource action : String) : Prop :=
  ∃ rule : Rule, rule.Leads (statedRules text) ∧ rule.effect = .allow ∧
    (rule.subject = subject ∨ ⟨subject, ⟨rule.subject⟩⟩ ∈ statedGroupings text) ∧
    Pattern.matchesColons resource.toList rule.resource.toList = some true ∧ (rule.action = action ∨ rule.action = "*")

/-- Two texts allow alike: they have the same leading rules that allow, and the same groupings. -/
structure AllowAlike (text text' : String) : Prop where
  leads_iff : ∀ rule : Rule, rule.effect = .allow → (rule.Leads (statedRules text') ↔ rule.Leads (statedRules text))
  grouping_iff : ∀ g, g ∈ statedGroupings text' ↔ g ∈ statedGroupings text

variable {text text' : String} {set : RuleSet} {subject resource action : String}

/-- Texts that allow alike permit the same. -/
theorem AllowAlike.permits_iff [Pattern.RegexEngine] (h : AllowAlike text text') (subject resource action : String) :
    TextPermits text' subject resource action ↔ TextPermits text subject resource action := by
  unfold TextPermits
  refine exists_congr fun rule => ?_
  rw [h.grouping_iff]
  constructor
  · rintro ⟨hleads, heffect, hrest⟩
    exact ⟨(h.leads_iff rule heffect).1 hleads, heffect, hrest⟩
  · rintro ⟨hleads, heffect, hrest⟩
    exact ⟨(h.leads_iff rule heffect).2 hleads, heffect, hrest⟩

/-- A grouping is stated by a text when a line states it. -/
theorem mem_statedGroupings_iff {g : Grouping} :
    g ∈ statedGroupings text ↔ ∃ line ∈ Text.lines text.toList, Grouping.ofLine? line = some g := by
  rw [statedGroupings, List.mem_eraseDups, List.mem_filterMap]

/-- Lines in another order allow alike when the same rules that allow lead. -/
theorem allowAlike_of_perm (hperm : (Text.lines text'.toList).Perm (Text.lines text.toList))
    (hleads : ∀ rule : Rule, rule.effect = .allow →
      (rule.Leads (statedRules text') ↔ rule.Leads (statedRules text))) : AllowAlike text text' := by
  refine ⟨hleads, fun g => ?_⟩
  rw [mem_statedGroupings_iff, mem_statedGroupings_iff]
  exact exists_congr fun line => and_congr_left fun _ => hperm.mem_iff

/-- A rule that denies does not keep the rules that allow from leading, unless it is the first about its subject, resource
and action and one of the rules behind it that are about the same allows. -/
theorem leads_insert_deny {before after : List Rule} {deny rule : Rule} (hdeny : deny.effect = .deny)
    (hharmless : (∃ earlier ∈ before, earlier.target = deny.target) ∨
      ∀ later ∈ after, later.target = deny.target → later.effect = .deny) (hallow : rule.effect = .allow) :
    rule.Leads (before ++ deny :: after) ↔ rule.Leads (before ++ after) := by
  rw [← List.singleton_append, Rule.leads_append, Rule.leads_append, Rule.leads_append, Rule.leads_singleton]
  refine or_congr_right (and_congr_left fun hnew => ?_)
  constructor
  · rintro (rfl | ⟨hleads, -⟩)
    · rw [hdeny] at hallow
      cases hallow
    · exact hleads
  · intro hleads
    refine Or.inr ⟨hleads, fun s hs hsame => ?_⟩
    obtain rfl := List.mem_singleton.1 hs
    rcases hharmless with ⟨earlier, hearlier, htarget⟩ | hdenied
    · exact hnew earlier hearlier (htarget.trans hsame)
    · rw [hdenied rule hleads.mem hsame.symm] at hallow
      cases hallow

/-- A text with one more line that denies allows alike, under the same condition. -/
theorem allowAlike_of_insert_deny {before after : List (List Char)} {line : List Char} {deny : Rule}
    (hlines : Text.lines text.toList = before ++ after) (hlines' : Text.lines text'.toList = before ++ line :: after)
    (hline : Rule.ofLine? line = some deny) (hdeny : deny.effect = .deny)
    (hharmless : (∃ earlier ∈ before.filterMap Rule.ofLine?, earlier.target = deny.target) ∨
      ∀ later ∈ after.filterMap Rule.ofLine?, later.target = deny.target → later.effect = .deny) :
    AllowAlike text text' := by
  constructor
  · intro rule hallow
    rw [statedRules, statedRules, hlines, hlines', List.filterMap_append, List.filterMap_append,
      List.filterMap_cons_some hline]
    exact leads_insert_deny hdeny hharmless hallow
  · intro g
    rw [statedGroupings, statedGroupings, hlines, hlines', List.filterMap_append, List.filterMap_append,
      List.filterMap_cons_none (Grouping.ofLine?_of_rule hline)]

namespace Engine

/-- An engine of the built-in model is the engine of the rules that it was given. -/
theorem exists_of_build {source : Unit → Except ServiceError RuleSet} {engine : Engine}
    (h : build (.ok defaultModelText) source = .ok engine) : ∃ set, source () = .ok set ∧ engine = ofRules set := by
  rw [build_default] at h
  obtain ⟨set, hset, rfl⟩ := Outcome.map_eq_ok_iff.1 h
  exact ⟨set, hset, rfl⟩

section Decision

variable [Pattern.RegexEngine]

/-- The engine of a text decides what the lines of the text permit. -/
theorem enforce_ofRules_of_text (htext : ofText text = .ok set) (hrules : statedRules text ≠ [])
    (hpatterns : ∀ rule ∈ statedRules text, Pattern.Compiles rule.resource) (hsubject : subject ≠ "")
    (resource action : String) :
    ∃ allowed, (ofRules set).enforce subject resource action = .ok allowed ∧
      (allowed = true ↔ TextPermits text subject resource action) := by
  have hleading (rule : Rule) : rule ∈ set.rules ↔ rule.Leads (statedRules text) := by
    rw [RuleSet.rules_ofText htext, mem_leading_iff]
  have hsome : set.rules ≠ [] := by
    obtain ⟨rule, rest, hstated⟩ := List.exists_cons_of_ne_nil hrules
    refine List.ne_nil_of_mem ((hleading rule).2 ?_)
    exact ⟨[], rest, hstated, fun earlier hearlier => absurd hearlier List.not_mem_nil⟩
  obtain ⟨allowed, henforce, hiff⟩ := @enforce_run_ofRules _ subject resource action set hsome
    (fun rule hrule => hpatterns rule ((hleading rule).1 hrule).mem) [] hsubject
  refine ⟨allowed, henforce, hiff.trans (exists_congr fun rule => ?_)⟩
  have hgroupings (g : Grouping) : g ∈ ((ofRules set).run []).groupings ↔ g ∈ statedGroupings text := by
    rw [← RuleSet.groupings_ofText htext]
    exact List.mem_eraseDups
  rw [hleading, hgroupings]

/-- The engines of texts that allow alike decide alike. -/
theorem enforce_ofRules_congr {set' : RuleSet} (halike : AllowAlike text text') (htext : ofText text = .ok set)
    (htext' : ofText text' = .ok set') (hrules : statedRules text ≠ []) (hrules' : statedRules text' ≠ [])
    (hpatterns : ∀ rule ∈ statedRules text, Pattern.Compiles rule.resource)
    (hpatterns' : ∀ rule ∈ statedRules text', Pattern.Compiles rule.resource) (hsubject : subject ≠ "") :
    (ofRules set').enforce subject resource action = (ofRules set).enforce subject resource action := by
  obtain ⟨allowed, henforce, hiff⟩ := enforce_ofRules_of_text htext hrules hpatterns hsubject resource action
  obtain ⟨allowed', henforce', hiff'⟩ := enforce_ofRules_of_text htext' hrules' hpatterns' hsubject resource action
  have hequal : allowed' = allowed := by
    rw [Bool.eq_iff_iff, hiff, hiff']
    exact halike.permits_iff subject resource action
  rw [henforce, henforce', hequal]

/-- Let a text be accepted that states some rules, whose patterns all make expressions. An engine of the built-in model
is built from it, and decides every request of a subject that is not empty: it allows what a leading rule of the text
allows to the subject or to a role that the text gives to the subject, and nothing else. The lines may be put in another
order as long as the same rules that allow lead. A line that denies may be put anywhere, unless it becomes the first about
its subject, resource and action and a line behind it allows the very same. -/
theorem enforce_of_text (htext : ofText text = .ok set) (hrules : statedRules text ≠ [])
    (hpatterns : ∀ rule ∈ statedRules text, Pattern.Compiles rule.resource) :
    ∃ engine, build (.ok defaultModelText) (fun () => ofText text) = .ok engine ∧
      ∀ subject resource action : String, subject ≠ "" →
        (∃ allowed, engine.enforce subject resource action = .ok allowed ∧
          (allowed = true ↔ TextPermits text subject resource action)) ∧
        (∀ (text' : String) (engine' : Engine), build (.ok defaultModelText) (fun () => ofText text') = .ok engine' →
          (Text.lines text'.toList).Perm (Text.lines text.toList) →
          (∀ rule : Rule, rule.effect = .allow →
            (rule.Leads (statedRules text') ↔ rule.Leads (statedRules text))) →
          engine'.enforce subject resource action = engine.enforce subject resource action) ∧
        ∀ (text' : String) (engine' : Engine) (before after : List (List Char)) (line : List Char) (deny : Rule),
          build (.ok defaultModelText) (fun () => ofText text') = .ok engine' →
          Text.lines text.toList = before ++ after → Text.lines text'.toList = before ++ line :: after →
          Rule.ofLine? line = some deny → deny.effect = .deny → Pattern.Compiles deny.resource →
          ((∃ earlier ∈ before.filterMap Rule.ofLine?, earlier.target = deny.target) ∨
            ∀ later ∈ after.filterMap Rule.ofLine?, later.target = deny.target → later.effect = .deny) →
          engine'.enforce subject resource action = engine.enforce subject resource action := by
  have hbuild : build (.ok defaultModelText) (fun () => ofText text) = .ok (ofRules set) := by
    rw [build_default, htext]
    rfl
  refine ⟨ofRules set, hbuild, fun subject resource action hsubject => ⟨?_, ?_, ?_⟩⟩
  · exact enforce_ofRules_of_text htext hrules hpatterns hsubject resource action
  · intro text' engine' hbuild' hperm hleads
    obtain ⟨set', htext', rfl⟩ := exists_of_build hbuild'
    have hstated : (statedRules text').Perm (statedRules text) := hperm.filterMap _
    refine enforce_ofRules_congr (allowAlike_of_perm hperm hleads) htext htext' hrules ?_ hpatterns ?_ hsubject
    · intro hnone
      rw [hnone] at hstated
      exact hrules hstated.nil_eq.symm
    · exact fun rule hrule => hpatterns rule (hstated.mem_iff.1 hrule)
  · intro text' engine' before after line deny hbuild' hlines hlines' hline hdeny hpattern hharmless
    obtain ⟨set', htext', rfl⟩ := exists_of_build hbuild'
    have hstated : ∀ rule, rule ∈ statedRules text' ↔ rule = deny ∨ rule ∈ statedRules text := by
      intro rule
      rw [statedRules, statedRules, hlines, hlines', List.filterMap_append, List.filterMap_append,
        List.filterMap_cons_some hline, List.mem_append, List.mem_append, List.mem_cons]
      exact or_left_comm
    have halike := allowAlike_of_insert_deny hlines hlines' hline hdeny hharmless
    refine enforce_ofRules_congr halike htext htext' hrules ?_ hpatterns ?_ hsubject
    · exact List.ne_nil_of_mem ((hstated deny).2 (Or.inl rfl))
    · intro rule hrule
      rcases (hstated rule).1 hrule with rfl | hrule
      · exact hpattern
      · exact hpatterns rule hrule

end Decision

/-- A line that denies what the next line allows to the very same subject takes the permission away, and does not when
the two lines change places. -/
theorem enforce_of_deny_first :
    let text := "p, alice, /teams, GET, deny\np, alice, /teams, GET, allow"
    let swapped := "p, alice, /teams, GET, allow\np, alice, /teams, GET, deny"
    ∃ engine engine', build (.ok defaultModelText) (fun () => ofText text) = .ok engine ∧
      build (.ok defaultModelText) (fun () => ofText swapped) = .ok engine' ∧
      (∀ rule ∈ statedRules text, Pattern.Compiles rule.resource) ∧
      (∃ rule ∈ statedRules text, rule.Allows "alice" "/teams" "GET") ∧
      engine.enforce "alice" "/teams" "GET" = .ok false ∧ engine'.enforce "alice" "/teams" "GET" = .ok true := by
  intro text swapped
  have htext : ofText text = .ok ⟨[⟨"alice", "/teams", "GET", .deny⟩], []⟩ := by decide +kernel
  have hswapped : ofText swapped = .ok ⟨[⟨"alice", "/teams", "GET", .allow⟩], []⟩ := by decide +kernel
  have hstated : statedRules text = [⟨"alice", "/teams", "GET", .deny⟩, ⟨"alice", "/teams", "GET", .allow⟩] := by
    decide +kernel
  have hstated' : statedRules swapped = [⟨"alice", "/teams", "GET", .allow⟩, ⟨"alice", "/teams", "GET", .deny⟩] := by
    decide +kernel
  have hpatterns : ∀ rule ∈ statedRules text, Pattern.Compiles rule.resource := by
    rw [hstated]
    decide +kernel
  have hmatches : Pattern.matchesColons "/teams".toList "/teams".toList = some true := by decide +kernel
  refine ⟨_, _, by rw [build_default, htext]; rfl, by rw [build_default, hswapped]; rfl, hpatterns, ?_, ?_, ?_⟩
  · rw [hstated]
    exact ⟨⟨"alice", "/teams", "GET", .allow⟩, by decide, rfl, rfl, hmatches, Or.inl rfl⟩
  · decide +kernel
  · decide +kernel

/-- A coach may change a team, also when the lines stand the other way round, and when a line behind the one that allows
it denies it to coaches. -/
theorem enforce_of_text_of_coach :
    let text := "p, coach, /teams/:id, PUT\ng, bob, coach"
    let swapped := "g, bob, coach\np, coach, /teams/:id, PUT"
    let denied := "p, coach, /teams/:id, PUT\np, coach, /teams/:id, PUT, deny\ng, bob, coach"
    ∀ policy ∈ [text, swapped, denied],
      ∃ engine, build (.ok defaultModelText) (fun () => ofText policy) = .ok engine ∧
        engine.enforce "bob" "/teams/7" "PUT" = .ok true := by
  intro text swapped denied
  -- All three texts are read to the same rules and groupings.
  obtain ⟨set, hset⟩ : ∃ set : RuleSet, set = ⟨[⟨"coach", "/teams/:id", "PUT", .allow⟩], [⟨"bob", ⟨"coach"⟩⟩]⟩ :=
    ⟨_, rfl⟩
  have htext : ofText text = .ok set := by
    rw [hset]
    decide +kernel
  have hbuilt (policy : String) (h : ofText policy = .ok set) :
      build (.ok defaultModelText) (fun () => ofText policy) = .ok (ofRules set) := by
    rw [build_default, h]
    rfl
  have hswapped := hbuilt swapped (by rw [hset]; decide +kernel)
  have hdenied := hbuilt denied (by rw [hset]; decide +kernel)
  have hstated : statedRules text = [⟨"coach", "/teams/:id", "PUT", .allow⟩] := by decide +kernel
  have hstated' : statedRules swapped = [⟨"coach", "/teams/:id", "PUT", .allow⟩] := by decide +kernel
  have hpatterns : ∀ rule ∈ statedRules text, Pattern.Compiles rule.resource := by
    rw [hstated]
    decide +kernel
  obtain ⟨engine, hbuild, hdecides⟩ := enforce_of_text htext (by rw [hstated]; exact List.cons_ne_nil _ _) hpatterns
  obtain ⟨⟨allowed, henforce, hiff⟩, hswap, hdeny⟩ := hdecides "bob" "/teams/7" "PUT" (by decide)
  have hpermits : TextPermits text "bob" "/teams/7" "PUT" := by
    refine ⟨⟨"coach", "/teams/:id", "PUT", .allow⟩, ?_, rfl, Or.inr (by decide +kernel), by decide +kernel, Or.inl rfl⟩
    rw [hstated]
    exact Rule.leads_singleton.2 rfl
  obtain rfl := hiff.2 hpermits
  have hsame := hswap swapped _ hswapped (by decide +kernel) (by simp [hstated, hstated'])
  have hkept := hdeny denied _ ["p, coach, /teams/:id, PUT".toList] ["g, bob, coach".toList]
    "p, coach, /teams/:id, PUT, deny".toList ⟨"coach", "/teams/:id", "PUT", .deny⟩ hdenied (by decide +kernel)
    (by decide +kernel) (by decide +kernel) rfl (by decide +kernel)
    (Or.inl ⟨⟨"coach", "/teams/:id", "PUT", .allow⟩, by decide +kernel, rfl⟩)
  simp only [List.forall_mem_cons, List.not_mem_nil, IsEmpty.forall_iff, implies_true, and_true]
  exact ⟨⟨engine, hbuild, henforce⟩, ⟨_, hswapped, hsame.trans henforce⟩, ⟨_, hdenied, hkept.trans henforce⟩⟩

end Engine

end Gatehouse.Policy
