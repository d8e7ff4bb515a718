import Mathlib
import Gatehouse.Proofs.Settings.Layer

/-!
# When structures are read

A structure that is given as a table is read exactly when each of its fields is there and is read from the member of its
name (`readServer_eq_ok_iff` and the others). So settings whose sections are tables are read from a tree exactly when
every setting is read from what stands at its place (`ofTree_eq_ok_iff`).
-/

namespace Gatehouse.Settings

open Outcome

variable {α : Type} {t : Tree} {group name : String} {origin : Option String} {members : List (String × Tree)}
  {read : Tree → String → Reading α} {a : α}

/-- The sections of settings. -/
def groups : List String := ["server", "logging", "token", "policy"]

/-- What stands at two names is there and is read. -/
def Given (t : Tree) (group name : String) (read : Tree → String → Reading α) (a : α) : Prop :=
  ∃ v, t.at? [group, name] = some v ∧ read v (group ++ "." ++ name) = .ok a

namespace Form

variable {structName key : String} {size index : Nat} {found : Option α} {v : Tree}

/-- A structure that is given as a table. -/
abbrev ofMembers (structName : String) (size : Nat) (key : String) (members : List (String × Tree)) : Form :=
  ⟨structName, size, key, .named members⟩

/-- A field that is read and has to be there is a member that is read. -/
theorem exists_of_field (hfield : (ofMembers structName size key members).field index name read = .ok found)
    (hrequire : (ofMembers structName size key members).require name found = .ok a) :
    ∃ v, members.lookup name = some v ∧ read v ((ofMembers structName size key members).fieldKey name) = .ok a := by
  cases hlookup : members.lookup name with
  | none =>
    simp only [field, field?, hlookup] at hfield
    obtain rfl := Except.ok.inj hfield
    cases hrequire
  | some v =>
    simp only [field, field?, hlookup] at hfield
    obtain ⟨b, hread, rfl⟩ := map_eq_ok_iff.1 hfield
    obtain rfl := Except.ok.inj hrequire
    exact ⟨v, rfl, hread⟩

/-- A member that is read gives its field. -/
theorem field_of_read (hlookup : members.lookup name = some v)
    (hread : read v ((ofMembers structName size key members).fieldKey name) = .ok a) :
    (ofMembers structName size key members).field index name read = .ok (some a) := by
  simp only [field, field?, hlookup]
  exact map_eq_ok_iff.2 ⟨a, hread, rfl⟩

/-- The keys of all settings are the names of the sections. -/
theorem fieldKey_root (name : String) : (ofMembers structName size "" members).fieldKey name = name := by
  rw [fieldKey]
  exact (if_pos rfl).trans String.empty_append

/-- A section that is read and has to be there is read from its member. -/
theorem read_of_field_root (hlookup : members.lookup name = some v)
    (hfield : (ofMembers structName size "" members).field index name read = .ok found)
    (hrequire : (ofMembers structName size "" members).require name found = .ok a) : read v name = .ok a := by
  obtain ⟨w, hw, hread⟩ := exists_of_field hfield hrequire
  obtain rfl := Option.some.inj (hlookup.symm.trans hw)
  rwa [fieldKey_root] at hread

/-- A member that is read gives its section. -/
theorem field_root_of_read (hlookup : members.lookup name = some v) (hread : read v name = .ok a) :
    (ofMembers structName size "" members).field index name read = .ok (some a) :=
  field_of_read hlookup (by rwa [fieldKey_root])

/-- The keys of the fields of a section have its name before a dot. -/
theorem fieldKey_section (hgroup : group ∈ groups) (name : String) :
    (ofMembers structName size group members).fieldKey name = group ++ "." ++ name := by
  have hplain : ∀ group ∈ groups, ¬(group.isEmpty || group.toList.getLast? = some ']') = true := by decide
  rw [fieldKey]
  exact if_neg (hplain group hgroup)

/-- A field of a section that is read and has to be there is given. -/
theorem given_of_field (hgroup : group ∈ groups) (hsection : t.member? group = some (.table origin members))
    (hfield : (ofMembers structName size group members).field index name read = .ok found)
    (hrequire : (ofMembers structName size group members).require name found = .ok a) : Given t group name read a := by
  rw [Given, Tree.at?_pair, hsection, ← fieldKey_section hgroup]
  exact exists_of_field hfield hrequire

/-- A field of a section that is given is read. -/
theorem field_of_given (hgroup : group ∈ groups) (hsection : t.member? group = some (.table origin members))
    (h : Given t group name read a) :
    (ofMembers structName size group members).field index name read = .ok (some a) := by
  rw [Given, Tree.at?_pair, hsection] at h
  obtain ⟨v, hlookup, hread⟩ := h
  rw [← fieldKey_section hgroup] at hread
  exact field_of_read hlookup hread

end Form

/-! ## Sections -/

/-- The server is read from its address and its port. -/
theorem readServer_eq_ok_iff {s : Server} (h : t.member? "server" = some (.table origin members)) :
    readServer (.table origin members) "server" = .ok s ↔
      Given t "server" "host" readText s.host ∧ Given t "server" "port" readPort s.port := by
  have hgroup : "server" ∈ groups := by decide
  simp only [readServer, bind_eq_ok_iff]
  constructor
  · rintro ⟨f, hform, host, hhost, port, hport, host', hhost', port', hport', hs⟩
    obtain rfl := Except.ok.inj hform
    obtain rfl := Except.ok.inj hs
    exact ⟨Form.given_of_field hgroup h hhost hhost', Form.given_of_field hgroup h hport hport'⟩
  · rintro ⟨hhost, hport⟩
    exact ⟨_, rfl, _, Form.field_of_given hgroup h hhost, _, Form.field_of_given hgroup h hport, _, rfl, _, rfl, rfl⟩

/-- The log is read from its level. -/
theorem readLogging_eq_ok_iff {s : Logging} (h : t.member? "logging" = some (.table origin members)) :
    readLogging (.table origin members) "logging" = .ok s ↔ Given t "logging" "level" readText s.level := by
  have hgroup : "logging" ∈ groups := by decide
  simp only [readLogging, bind_eq_ok_iff]
  constructor
  · rintro ⟨f, hform, level, hlevel, level', hlevel', hs⟩
    obtain rfl := Except.ok.inj hform
    obtain rfl := Except.ok.inj hs
    exact Form.given_of_field hgroup h hlevel hlevel'
  · intro hlevel
    exact ⟨_, rfl, _, Form.field_of_given hgroup h hlevel, _, rfl, rfl⟩

/-- Tokens are read from their key, their lifetimes, their issuer and their audience. -/
theorem readToken_eq_ok_iff {s : Token} (h : t.member? "token" = some (.table origin members)) :
    readToken (.table origin members) "token" = .ok s ↔
      Given t "token" "symmetric_key" readText s.symmetricKey ∧
        Given t "token" "access_token_duration_secs" readInteger s.accessSeconds ∧
        Given t "token" "refresh_token_duration_secs" readInteger s.refreshSeconds ∧
        Given t "token" "issuer" readText s.issuer ∧ Given t "token" "audience" readText s.audience := by
  have hgroup : "token" ∈ groups := by decide
  simp only [readToken, bind_eq_ok_iff]
  constructor
  · rintro ⟨f, hform, symmetricKey, hkey, access, haccess, refresh, hrefresh, issuer, hissuer, audience, haudience,
      key', hkey', access', haccess', refresh', hrefresh', issuer', hissuer', audience', haudience', hs⟩
    obtain rfl := Except.ok.inj hform
    obtain rfl := Except.ok.inj hs
    exact ⟨Form.given_of_field hgroup h hkey hkey', Form.given_of_field hgroup h haccess haccess',
      Form.given_of_field hgroup h hrefresh hrefresh', Form.given_of_field hgroup h hissuer hissuer',
      Form.given_of_field hgroup h haudience haudience'⟩
  · rintro ⟨hkey, haccess, hrefresh, hissuer, haudience⟩
    exact ⟨_, rfl, _, Form.field_of_given hgroup h hkey, _, Form.field_of_given hgroup h haccess,
      _, Form.field_of_given hgroup h hrefresh, _, Form.field_of_given hgroup h hissuer,
      _, Form.field_of_given hgroup h haudience, _, rfl, _, rfl, _, rfl, _, rfl, _, rfl, rfl⟩

/-- The policy is read from its two paths. -/
theorem readPolicy_eq_ok_iff {s : Policy} (h : t.member? "policy" = some (.table origin members)) :
    readPolicy (.table origin members) "policy" = .ok s ↔
      Given t "policy" "policy_path" readText s.policyPath ∧ Given t "policy" "model_path" readText s.modelPath := by
  have hgroup : "policy" ∈ groups := by decide
  simp only [readPolicy, bind_eq_ok_iff]
  constructor
  · rintro ⟨f, hform, policyPath, hpolicy, modelPath, hmodel, policyPath', hpolicy', modelPath', hmodel', hs⟩
    obtain rfl := Except.ok.inj hform
    obtain rfl := Except.ok.inj hs
    exact ⟨Form.given_of_field hgroup h hpolicy hpolicy', Form.given_of_field hgroup h hmodel hmodel'⟩
  · rintro ⟨hpolicy, hmodel⟩
    exact ⟨_, rfl, _, Form.field_of_given hgroup h hpolicy, _, Form.field_of_given hgroup h hmodel, _, rfl, _, rfl, rfl⟩

/-! ## Settings -/

/-- The users of settings are those that are given, if any are. -/
def UsersGiven (given : Option Tree) (users : List SeedUser) : Prop :=
  match given with
  | some v => readList readSeedUser v "users" = .ok users
  | none => users = []

/-- The users are read exactly when they are given, or none are. -/
theorem usersGiven_iff {users : List SeedUser} : UsersGiven (members.lookup "users") users ↔
    ∃ found, (Form.ofMembers "Settings" 5 "" members).field? 4 "users" (readList readSeedUser) = .ok found ∧
      found.getD [] = users := by
  cases hlookup : members.lookup "users" with
  | none =>
    simp only [UsersGiven, Form.field?, hlookup, Except.ok.injEq]
    constructor
    · rintro rfl
      exact ⟨none, rfl, rfl⟩
    · rintro ⟨found, rfl, rfl⟩
      rfl
  | some v =>
    simp only [UsersGiven, Form.field?, hlookup, Form.fieldKey_root, map_eq_ok_iff]
    constructor
    · exact fun h => ⟨some users, ⟨users, h, rfl⟩, rfl⟩
    · rintro ⟨found, ⟨users, h, rfl⟩, rfl⟩
      exact h

/-- Settings are read from a tree of sections exactly when every setting is given, and the users are. -/
theorem ofTree_eq_ok_iff {s : Settings}
    (h : ∀ group ∈ groups, ∃ origin members, t.member? group = some (.table origin members)) :
    ofTree t = .ok s ↔
      (Given t "server" "host" readText s.server.host ∧ Given t "server" "port" readPort s.server.port) ∧
        Given t "logging" "level" readText s.logging.level ∧
        (Given t "token" "symmetric_key" readText s.token.symmetricKey ∧
          Given t "token" "access_token_duration_secs" readInteger s.token.accessSeconds ∧
          Given t "token" "refresh_token_duration_secs" readInteger s.token.refreshSeconds ∧
          Given t "token" "issuer" readText s.token.issuer ∧ Given t "token" "audience" readText s.token.audience) ∧
        (Given t "policy" "policy_path" readText s.policy.policyPath ∧
          Given t "policy" "model_path" readText s.policy.modelPath) ∧
        UsersGiven (t.member? "users") s.users := by
  obtain ⟨_, _, hserver⟩ := h "server" (by decide)
  obtain ⟨_, _, hlogging⟩ := h "logging" (by decide)
  obtain ⟨_, _, htoken⟩ := h "token" (by decide)
  obtain ⟨_, _, hpolicy⟩ := h "policy" (by decide)
  obtain ⟨origin, members, rfl⟩ := Tree.eq_table_of_member? hserver
  rw [← readServer_eq_ok_iff hserver, ← readLogging_eq_ok_iff hlogging, ← readToken_eq_ok_iff htoken,
    ← readPolicy_eq_ok_iff hpolicy]
  simp only [ofTree, bind_eq_ok_iff]
  constructor
  · rintro ⟨f, hform, server, hserver', logging, hlogging', token, htoken', policy, hpolicy', users, husers,
      server', hserver'', logging', hlogging'', token', htoken'', policy', hpolicy'', hs⟩
    obtain rfl := Except.ok.inj hform
    obtain rfl := Except.ok.inj hs
    exact ⟨Form.read_of_field_root hserver hserver' hserver'', Form.read_of_field_root hlogging hlogging' hlogging'',
      Form.read_of_field_root htoken htoken' htoken'', Form.read_of_field_root hpolicy hpolicy' hpolicy'',
      usersGiven_iff.2 ⟨users, husers, rfl⟩⟩
  · rintro ⟨hserver', hlogging', htoken', hpolicy', husers'⟩
    obtain ⟨users, husers, hs⟩ := usersGiven_iff.1 husers'
    refine ⟨_, rfl, _, Form.field_root_of_read hserver hserver', _, Form.field_root_of_read hlogging hlogging',
      _, Form.field_root_of_read htoken htoken', _, Form.field_root_of_read hpolicy hpolicy', users, husers,
      _, rfl, _, rfl, _, rfl, _, rfl, ?_⟩
    rw [hs]
    rfl

end Gatehouse.Settings
