import Mathlib
import Gatehouse.Proofs.Pattern.Engine
import Gatehouse.Proofs.Policy.Decision

/-!
# What the built-in rules allow

The resources of the built-in rules are paths below `/api/v1`, written from plain text, placeholders and a star. So
what administrators and users may do is a set of paths for each action, with no broken pattern on the way
(`exists_defaultGrant_iff`).
-/

namespace Gatehouse.Policy

open Pattern (Part FitsAll pathPattern)

/-! ## Rules with resources in parts -/

/-- A permission for the paths below `/api/v1` that are made of texts for some parts. -/
structure Grant where
  name : String
  action : String
  parts : List Part

namespace Grant

/-- All parts of the paths of a permission. -/
def path (g : Grant) : List Part := .text "api".toList :: .text "v1".toList :: g.parts

/-- The rule for a permission. -/
def rule (g : Grant) : Rule := ⟨g.name, String.ofList (pathPattern g.path), g.action, .allow⟩

/-- The parts of a permission are plain. -/
def Plain (g : Grant) : Prop := ∀ p ∈ g.path, p.Plain

instance (g : Grant) : Decidable g.Plain := inferInstanceAs (Decidable (∀ p ∈ g.path, p.Plain))

/-- A permission covers an action on a resource. -/
def Covers (g : Grant) (resource action : String) : Prop :=
  FitsAll g.path resource.toList ∧ (g.action = action ∨ g.action = "*")

/-- The rule for a permission allows what the permission covers. -/
theorem allows_rule_iff {g : Grant} (hplain : g.Plain) {resource action : String} :
    g.rule.Allows g.rule.subject resource action ↔ g.Covers resource action := by
  have hmatches : Pattern.matchesColons resource.toList g.rule.resource.toList = some true ↔
      FitsAll g.path resource.toList := by
    rw [rule, String.toList_ofList]
    exact Pattern.matchesColons_pathPattern_iff hplain
  constructor
  · rintro ⟨-, -, hresource, haction⟩
    exact ⟨hmatches.1 hresource, haction⟩
  · rintro ⟨hresource, haction⟩
    exact ⟨rfl, rfl, hmatches.2 hresource, haction⟩

end Grant

/-! ## The built-in rules -/

/-- The permissions of the built-in rules. -/
def defaultGrants : List Grant :=
  [⟨"admin", "*", [.star]⟩,
    ⟨"user", "GET", [.text "whoami".toList]⟩,
    ⟨"user", "GET", [.text "teams".toList]⟩,
    ⟨"user", "POST", [.text "teams".toList]⟩,
    ⟨"user", "GET", [.text "teams".toList, .placeholder "id".toList]⟩,
    ⟨"user", "GET", [.text "teams".toList, .placeholder "id".toList, .text "members".toList]⟩,
    ⟨"user", "GET", [.text "players".toList]⟩,
    ⟨"user", "GET", [.text "players".toList, .placeholder "id".toList]⟩,
    ⟨"user", "GET", [.text "players".toList, .placeholder "id".toList, .text "roles".toList]⟩,
    ⟨"user", "GET", [.text "games".toList]⟩,
    ⟨"user", "GET", [.text "games".toList, .placeholder "id".toList]⟩]

/-- The text of the built-in rules states these permissions, and no groupings. -/
theorem RuleSet.ofText_default : ofText defaultRulesText = .ok ⟨defaultGrants.map Grant.rule, []⟩ := by
  unfold ofText defaultRulesText
  rw [Text.toList_of_eq rfl]
  decide +kernel

/-- A text is a segment of a path. -/
def IsSegment (x : String) : Prop := x ≠ "" ∧ '/' ∉ x.toList

/-- What users may do with a resource. -/
inductive UserMay : (action resource : String) → Prop
  | seeOneself : UserMay "GET" "/api/v1/whoami"
  | listTeams : UserMay "GET" "/api/v1/teams"
  | addTeam : UserMay "POST" "/api/v1/teams"
  | seeTeam {x : String} (hx : IsSegment x) : UserMay "GET" ("/api/v1/teams/" ++ x)
  | listMembers {x : String} (hx : IsSegment x) : UserMay "GET" ("/api/v1/teams/" ++ x ++ "/members")
  | listPlayers : UserMay "GET" "/api/v1/players"
  | seePlayer {x : String} (hx : IsSegment x) : UserMay "GET" ("/api/v1/players/" ++ x)
  | listRoles {x : String} (hx : IsSegment x) : UserMay "GET" ("/api/v1/players/" ++ x ++ "/roles")
  | listGames : UserMay "GET" "/api/v1/games"
  | seeGame {x : String} (hx : IsSegment x) : UserMay "GET" ("/api/v1/games/" ++ x)

/-- The parts of the built-in permissions are plain. -/
theorem plain_of_mem_defaultGrants : ∀ g ∈ defaultGrants, g.Plain := by
  decide +kernel

/-! ## The paths of the permissions -/

section Paths

variable {name action s t resource : String} {x : List Char}

/-- The paths of a permission are `/api/v1` and a path of its parts. -/
theorem fitsAll_path_iff {g : Grant} :
    FitsAll g.path resource.toList ↔ ∃ v, resource.toList = "/api/v1".toList ++ v ∧ FitsAll g.parts v := by
  simp only [Grant.path, FitsAll, Part.Fits]
  constructor
  · rintro ⟨_, _, hpath, rfl, _, v, rfl, rfl, hv⟩
    exact ⟨v, hpath, hv⟩
  · rintro ⟨v, hpath, hv⟩
    exact ⟨"api".toList, '/' :: ("v1".toList ++ v), hpath, rfl, "v1".toList, v, rfl, rfl, hv⟩

/-- The paths of a permission for any ending. -/
theorem fitsAll_below :
    FitsAll (Grant.path ⟨name, action, [.star]⟩) resource.toList ↔
      ∃ rest : String, '\n' ∉ rest.toList ∧ resource = "/api/v1/" ++ rest := by
  simp only [fitsAll_path_iff, FitsAll, Part.Fits]
  constructor
  · rintro ⟨_, hpath, u, _, rfl, hu, rfl⟩
    refine ⟨String.ofList u, by rwa [String.toList_ofList], ?_⟩
    rw [← String.toList_inj, hpath]
    simp
  · rintro ⟨rest, hrest, rfl⟩
    exact ⟨_, by simp, rest.toList, [], rfl, hrest, rfl⟩

/-- The only path of a permission for plain text. -/
theorem fitsAll_collection :
    FitsAll (Grant.path ⟨name, action, [.text s.toList]⟩) resource.toList ↔ resource = "/api/v1/" ++ s := by
  rw [fitsAll_path_iff, ← String.toList_inj]
  simp [FitsAll, Part.Fits]

/-- The texts of a segment. -/
theorem isSegment_ofList_iff {u : List Char} : IsSegment (String.ofList u) ↔ u ≠ [] ∧ '/' ∉ u := by
  rw [IsSegment, Ne, ← String.toList_inj, String.toList_ofList]
  rfl

/-- The paths of a permission for the members of a collection. -/
theorem fitsAll_member :
    FitsAll (Grant.path ⟨name, action, [.text s.toList, .placeholder x]⟩) resource.toList ↔
      ∃ x : String, IsSegment x ∧ resource = "/api/v1/" ++ s ++ "/" ++ x := by
  simp only [fitsAll_path_iff, FitsAll, Part.Fits]
  constructor
  · rintro ⟨_, hpath, _, _, rfl, rfl, u, _, rfl, hu, rfl⟩
    refine ⟨String.ofList u, isSegment_ofList_iff.2 hu, ?_⟩
    rw [← String.toList_inj, hpath]
    simp
  · rintro ⟨u, hu, rfl⟩
    rw [← String.ofList_toList (s := u), isSegment_ofList_iff] at hu
    exact ⟨_, by simp, _, _, rfl, rfl, u.toList, [], rfl, hu, rfl⟩

/-- The paths of a permission for what belongs to the members of a collection. -/
theorem fitsAll_belonging :
    FitsAll (Grant.path ⟨name, action, [.text s.toList, .placeholder x, .text t.toList]⟩) resource.toList ↔
      ∃ x : String, IsSegment x ∧ resource = "/api/v1/" ++ s ++ "/" ++ x ++ ("/" ++ t) := by
  simp only [fitsAll_path_iff, FitsAll, Part.Fits]
  constructor
  · rintro ⟨_, hpath, _, _, rfl, rfl, u, _, rfl, hu, _, _, rfl, rfl, rfl⟩
    refine ⟨String.ofList u, isSegment_ofList_iff.2 hu, ?_⟩
    rw [← String.toList_inj, hpath]
    simp
  · rintro ⟨u, hu, rfl⟩
    rw [← String.ofList_toList (s := u), isSegment_ofList_iff] at hu
    exact ⟨_, by simp, _, _, rfl, rfl, u.toList, _, rfl, hu, _, [], rfl, rfl, rfl⟩

end Paths

/-- Someone who acts under some names is covered by a built-in permission for an administrator, on any path below
`/api/v1`, or by one for a user. -/
theorem exists_defaultGrant_iff {acts : String → Prop} {resource action : String} :
    (∃ g ∈ defaultGrants, acts g.name ∧ g.Covers resource action) ↔
      (acts "admin" ∧ ∃ rest : String, '\n' ∉ rest.toList ∧ resource = "/api/v1/" ++ rest) ∨
        (acts "user" ∧ UserMay action resource) := by
  simp only [defaultGrants, List.exists_mem_cons_iff, Grant.Covers, fitsAll_below, fitsAll_collection, fitsAll_member,
    fitsAll_belonging, String.reduceAppend, String.reduceEq, List.not_mem_nil, false_and, exists_false, or_false,
    or_true, and_true]
  refine or_congr_right ?_
  constructor
  · rintro (⟨hacts, rfl, rfl⟩ | ⟨hacts, rfl, rfl⟩ | ⟨hacts, rfl, rfl⟩ | ⟨hacts, ⟨x, hx, rfl⟩, rfl⟩ |
      ⟨hacts, ⟨x, hx, rfl⟩, rfl⟩ | ⟨hacts, rfl, rfl⟩ | ⟨hacts, ⟨x, hx, rfl⟩, rfl⟩ | ⟨hacts, ⟨x, hx, rfl⟩, rfl⟩ |
      ⟨hacts, rfl, rfl⟩ | ⟨hacts, ⟨x, hx, rfl⟩, rfl⟩)
    · exact ⟨hacts, .seeOneself⟩
    · exact ⟨hacts, .listTeams⟩
    · exact ⟨hacts, .addTeam⟩
    · exact ⟨hacts, .seeTeam hx⟩
    · exact ⟨hacts, .listMembers hx⟩
    · exact ⟨hacts, .listPlayers⟩
    · exact ⟨hacts, .seePlayer hx⟩
    · exact ⟨hacts, .listRoles hx⟩
    · exact ⟨hacts, .listGames⟩
    · exact ⟨hacts, .seeGame hx⟩
  · rintro ⟨hacts, hmay⟩
    cases hmay with
    | seeTeam hx | listMembers hx | seePlayer hx | listRoles hx | seeGame hx => simp [hacts, hx]
    | _ => simp [hacts]

namespace Engine

/-! ## Decisions under the built-in rules -/

/-- After some calls a subject has its own name and the names of the roles that were registered for it. -/
def HasName (calls : List Call) (subject name : String) : Prop :=
  name = subject ∨ ∃ roles, Call.ensureRoles subject roles ∈ calls ∧ ⟨name⟩ ∈ roles

/-- The engine of the built-in rules. -/
def ofDefaultRules : Engine := ofRules ⟨defaultGrants.map Grant.rule, []⟩

/-- The rules of this engine are those for the built-in permissions. -/
theorem mem_rules_ofDefaultRules {calls : List Call} {rule : Rule} :
    rule ∈ (ofDefaultRules.run calls).rules ↔ ∃ g ∈ defaultGrants, g.rule = rule := by
  rw [(run_model_rules ofDefaultRules calls).2, ← List.mem_map]
  exact List.mem_eraseDups

/-- A subject acts under the names that it has, as the built-in rules state no groupings. -/
theorem actsAs_iff_hasName {calls : List Call} {subject name : String} (hsubject : subject ≠ "") :
    (ofDefaultRules.run calls).ActsAs subject name ↔ HasName calls subject name := by
  rw [ActsAs, HasName, mem_rolesFor hsubject, mem_groupings_run rfl]
  refine or_congr_right ?_
  constructor
  · rintro (hstated | hregistered)
    · exact absurd hstated List.not_mem_nil
    · exact hregistered
  · exact Or.inr

/-- Under the built-in model and rules every request of a subject that is not empty is decided, after every run. It is
allowed exactly when the subject has the name of administrators and the resource is `/api/v1/` with any ending without a
line feed, or when the subject has the name of users and this is among the things that users may do. -/
theorem enforce_run_default :
    ∃ engine, build (.ok defaultModelText) (fun () => RuleSet.ofText defaultRulesText) = .ok engine ∧
      ∀ (calls : List Call) (subject resource action : String), subject ≠ "" →
        ∃ allowed, (engine.run calls).enforce subject resource action = .ok allowed ∧
          (allowed = true ↔
            (HasName calls subject "admin" ∧ ∃ rest : String, '\n' ∉ rest.toList ∧ resource = "/api/v1/" ++ rest) ∨
              (HasName calls subject "user" ∧ UserMay action resource)) := by
  refine ⟨ofDefaultRules, ?_, fun calls subject resource action hsubject => ?_⟩
  · rw [build_default, RuleSet.ofText_default]
    rfl
  have hmodel : (ofDefaultRules.run calls).model = .builtin := (run_model_rules ofDefaultRules calls).1
  have hpatterns : ∀ rule ∈ (ofDefaultRules.run calls).rules, Pattern.Compiles rule.resource := by
    intro rule hrule
    obtain ⟨g, hg, rfl⟩ := mem_rules_ofDefaultRules.1 hrule
    exact Pattern.compiles_pathPattern (plain_of_mem_defaultGrants g hg)
  have hsome : (ofDefaultRules.run calls).rules ≠ [] := by
    rw [(run_model_rules ofDefaultRules calls).2]
    nofun
  obtain ⟨allowed, henforce, hiff⟩ :=
    enforce_builtin hmodel (compiles_of_mem_decisive hpatterns) subject resource action
  refine ⟨allowed, henforce, ?_⟩
  rw [hiff, decisive_of_rules hsome, ← exists_defaultGrant_iff]
  constructor
  · rintro ⟨rule, hrule, hacts, hallows⟩
    obtain ⟨g, hg, rfl⟩ := mem_rules_ofDefaultRules.1 hrule
    exact ⟨g, hg, (actsAs_iff_hasName hsubject).1 hacts,
      (Grant.allows_rule_iff (plain_of_mem_defaultGrants g hg)).1 hallows⟩
  · rintro ⟨g, hg, hname, hcovers⟩
    exact ⟨g.rule, mem_rules_ofDefaultRules.2 ⟨g, hg, rfl⟩, (actsAs_iff_hasName hsubject).2 hname,
      (Grant.allows_rule_iff (plain_of_mem_defaultGrants g hg)).2 hcovers⟩

/-- A user who was registered as one may look at a game, and someone without roles may not. -/
theorem enforce_run_default_games :
    ∃ engine, build (.ok defaultModelText) (fun () => RuleSet.ofText defaultRulesText) = .ok engine ∧
      (engine.run [.ensureRoles "alice" [⟨"user"⟩]]).enforce "alice" "/api/v1/games/7" "GET" = .ok true ∧
      (engine.run [.ensureRoles "alice" [⟨"user"⟩]]).enforce "bob" "/api/v1/games/7" "GET" = .ok false := by
  obtain ⟨engine, hbuild, hdecides⟩ := enforce_run_default
  refine ⟨engine, hbuild, ?_, ?_⟩
  · obtain ⟨allowed, henforce, hiff⟩ :=
      hdecides [.ensureRoles "alice" [⟨"user"⟩]] "alice" "/api/v1/games/7" "GET" (by decide)
    have huser : HasName [.ensureRoles "alice" [⟨"user"⟩]] "alice" "user" :=
      Or.inr ⟨_, List.mem_cons_self, List.mem_cons_self⟩
    have hmay : UserMay "GET" "/api/v1/games/7" := .seeGame (x := "7") (by unfold IsSegment; decide)
    rw [henforce, hiff.2 (Or.inr ⟨huser, hmay⟩)]
  · obtain ⟨allowed, henforce, hiff⟩ :=
      hdecides [.ensureRoles "alice" [⟨"user"⟩]] "bob" "/api/v1/games/7" "GET" (by decide)
    have hnone : ∀ name ∈ ["admin", "user"], ¬HasName [.ensureRoles "alice" [⟨"user"⟩]] "bob" name := by
      simp [HasName]
    have hrefused : ¬allowed = true := by
      rw [hiff]
      rintro (⟨hname, -⟩ | ⟨hname, -⟩)
      · exact hnone "admin" (by decide) hname
      · exact hnone "user" (by decide) hname
    rw [henforce, Bool.eq_false_iff.2 hrefused]

end Engine

end Gatehouse.Policy
