import Mathlib
import Gatehouse.Settings.Field
import Gatehouse.Proofs.Outcome

/-!
# What stands where in a tree of settings

What is put at a path of names is found there (`Tree.at?_changeAt`), and is not touched by what is put at a path that
goes another way at some name (`Tree.at?_changeAt_of_apart`). What stands at the place of a setting, the setting is read
from (`reads_of_ofTree`).
-/

namespace Gatehouse.Settings

namespace Tree

variable {names : List String} {path : List Step} {change : Tree → Tree} {t : Tree}

/-- The member of a name, if the value is a table that has one. -/
def member? (t : Tree) (name : String) : Option Tree := t.asTable.2.lookup name

/-- What stands at the end of a path of names. -/
def at? (t : Tree) : List String → Option Tree
  | [] => some t
  | name :: names => (t.member? name).bind fun t => t.at? names

/-- The steps of a path of names. -/
def steps (names : List String) : List Step := names.map .member

/-- A path goes another way than some names: after a common beginning it goes to a member of another name. -/
def Apart : List String → List Step → Prop
  | name :: names, .member other :: path => name ≠ other ∨ Apart names path
  | _, _ => False

instance Apart.instDecidable : (names : List String) → (path : List Step) → Decidable (Apart names path)
  | [], _ => .isFalse id
  | _ :: _, [] => .isFalse id
  | _ :: _, .item _ :: _ => .isFalse id
  | name :: names, .member other :: path =>
    have := instDecidable names path
    inferInstanceAs (Decidable (name ≠ other ∨ Apart names path))

/-! ## Changes -/

/-- The member of a name after a change is the changed one. -/
theorem lookup_changeMember (key : String) (change : Tree → Tree) (members : List (String × Tree)) :
    (changeMember key change members).lookup key = some (change ((members.lookup key).getD nothing)) := by
  induction members with
  | nil => simp [changeMember]
  | cons entry members ih =>
    obtain ⟨k, t⟩ := entry
    rw [changeMember]
    by_cases hk : k = key
    · rw [if_pos hk, hk, List.lookup_cons_self, List.lookup_cons_self]
      rfl
    · have hne : (key == k) = false := beq_eq_false_iff_ne.2 (Ne.symm hk)
      rw [if_neg hk, List.lookup_cons, List.lookup_cons, hne]
      exact ih

/-- The members of other names stay as they are. -/
theorem lookup_changeMember_of_ne {key name : String} (h : name ≠ key) (change : Tree → Tree)
    (members : List (String × Tree)) : (changeMember key change members).lookup name = members.lookup name := by
  induction members with
  | nil => simp [changeMember, List.lookup_cons, beq_eq_false_iff_ne.2 h]
  | cons entry members ih =>
    obtain ⟨k, t⟩ := entry
    rw [changeMember]
    split_ifs with hk
    · rw [List.lookup_cons, List.lookup_cons, hk, beq_eq_false_iff_ne.2 h]
    · rw [List.lookup_cons, List.lookup_cons, ih]

/-- After a change at the end of a path of names the changed value stands there. -/
theorem at?_changeAt (names : List String) (t : Tree) :
    (t.changeAt change (steps names)).at? names = some (change ((t.at? names).getD nothing)) := by
  induction names generalizing t with
  | nil => rfl
  | cons name names ih =>
    change (((changeMember name (changeAt change (steps names)) t.asTable.2).lookup name).bind fun t => t.at? names) = _
    rw [lookup_changeMember, Option.bind_some, ih, at?, member?]
    cases t.asTable.2.lookup name with
    | some old => rfl
    | none =>
      -- Nothing stands where there is no member, and it has no members either.
      have hnothing : (nothing.at? names).getD nothing = nothing := by
        cases names with
        | nil => rfl
        | cons name names => rfl
      rw [Option.getD_none, hnothing]
      rfl

/-- A change elsewhere does not matter. -/
theorem at?_changeAt_of_apart (h : Apart names path) (t : Tree) : (t.changeAt change path).at? names = t.at? names := by
  induction names generalizing path t with
  | nil => exact h.elim
  | cons name names ih =>
    cases path with
    | nil => exact h.elim
    | cons step path =>
      cases step with
      | item index => exact h.elim
      | member other =>
        change (((changeMember other (changeAt change path) t.asTable.2).lookup name).bind fun t => t.at? names) =
          (t.asTable.2.lookup name).bind fun t => t.at? names
        by_cases hname : name = other
        · subst hname
          have hrest : Apart names path := h.resolve_left fun hne => hne rfl
          rw [lookup_changeMember, Option.bind_some, ih hrest]
          cases t.asTable.2.lookup name with
          | some old => rfl
          | none =>
            cases names with
            | nil => exact hrest.elim
            | cons name names => rfl
        · rw [lookup_changeMember_of_ne hname]

/-! ## Layers -/

/-- A scalar that is put at a path of names stands there. -/
theorem at?_put_scalar {key : String} (hkey : pathOf key = steps names) (t : Tree) (origin : Option String)
    (v : Scalar) : (t.put key (.scalar origin v)).at? names = some (.scalar origin v) := by
  rw [put, hkey, at?_changeAt]
  rfl

/-- What a source says of other places does not matter. -/
theorem at?_putAll_of_apart {entries : List (String × Tree)} (h : ∀ entry ∈ entries, Apart names (pathOf entry.1))
    (t : Tree) : (t.putAll entries).at? names = t.at? names := by
  induction entries generalizing t with
  | nil => rfl
  | cons entry entries ih =>
    have hrest := ih (fun e he => h e (List.mem_cons_of_mem _ he)) (t.put entry.1 entry.2)
    exact hrest.trans (at?_changeAt_of_apart (h entry List.mem_cons_self) t)

/-- Where a source says something of a place and then nothing more of it, that stands there. -/
theorem at?_putAll_scalar {before after : List (String × Tree)} {key : String} (hkey : pathOf key = steps names)
    (origin : Option String) (v : Scalar) (hafter : ∀ entry ∈ after, Apart names (pathOf entry.1)) (t : Tree) :
    (t.putAll (before ++ (key, .scalar origin v) :: after)).at? names = some (.scalar origin v) := by
  rw [putAll, List.foldl_append, List.foldl_cons]
  exact (at?_putAll_of_apart hafter _).trans (at?_put_scalar hkey _ origin v)

end Tree

/-! ## Reading -/

open Outcome

variable {t : Tree} {key : String}

/-- A value is read from the member of a name, if there is one. -/
def Reads {α : Type} (t : Tree) (name : String) (read : Tree → String → Reading α) (a : α) : Prop :=
  ∀ sub, t.member? name = some sub → ∃ key, read sub key = .ok a

/-- A field that has to be there is read from the member of its name. -/
theorem reads_of_field {α : Type} {structName name : String} {size index : Nat} {f : Form}
    {read : Tree → String → Reading α} {found : Option α} {a : α} (hform : Form.ofTree structName size t key = .ok f)
    (hfield : f.field index name read = .ok found) (hrequire : f.require name found = .ok a) :
    Reads t name read a := by
  intro sub hsub
  cases t with
  | scalar origin v => cases hsub
  | list origin items => cases hsub
  | table origin members =>
    obtain rfl := Except.ok.inj hform
    have hlookup : members.lookup name = some sub := hsub
    simp only [Form.field, Form.field?, hlookup] at hfield
    obtain ⟨b, hread, rfl⟩ := map_eq_ok_iff.1 hfield
    obtain rfl := Except.ok.inj hrequire
    exact ⟨_, hread⟩

/-- Where the settings of the server are read from. -/
theorem reads_of_readServer {s : Server} (h : readServer t key = .ok s) :
    Reads t "host" readText s.host ∧ Reads t "port" readPort s.port := by
  simp only [readServer, bind_eq_ok_iff] at h
  obtain ⟨f, hform, host, hhost, port, hport, host', hhost', port', hport', hs⟩ := h
  obtain rfl := Except.ok.inj hs
  exact ⟨reads_of_field hform hhost hhost', reads_of_field hform hport hport'⟩

/-- Where the settings of the log are read from. -/
theorem reads_of_readLogging {s : Logging} (h : readLogging t key = .ok s) : Reads t "level" readText s.level := by
  simp only [readLogging, bind_eq_ok_iff] at h
  obtain ⟨f, hform, level, hlevel, level', hlevel', hs⟩ := h
  obtain rfl := Except.ok.inj hs
  exact reads_of_field hform hlevel hlevel'

/-- Where the settings of tokens are read from. -/
theorem reads_of_readToken {s : Token} (h : readToken t key = .ok s) :
    Reads t "symmetric_key" readText s.symmetricKey ∧
      Reads t "access_token_duration_secs" readInteger s.accessSeconds ∧
      Reads t "refresh_token_duration_secs" readInteger s.refreshSeconds ∧
      Reads t "issuer" readText s.issuer ∧ Reads t "audience" readText s.audience := by
  simp only [readToken, bind_eq_ok_iff] at h
  obtain ⟨f, hform, symmetricKey, hkey, access, haccess, refresh, hrefresh, issuer, hissuer, audience, haudience,
    key', hkey', access', haccess', refresh', hrefresh', issuer', hissuer', audience', haudience', hs⟩ := h
  obtain rfl := Except.ok.inj hs
  exact ⟨reads_of_field hform hkey hkey', reads_of_field hform haccess haccess',
    reads_of_field hform hrefresh hrefresh', reads_of_field hform hissuer hissuer',
    reads_of_field hform haudience haudience'⟩

/-- Where the settings of the policy are read from. -/
theorem reads_of_readPolicy {s : Policy} (h : readPolicy t key = .ok s) :
    Reads t "policy_path" readText s.policyPath ∧ Reads t "model_path" readText s.modelPath := by
  simp only [readPolicy, bind_eq_ok_iff] at h
  obtain ⟨f, hform, policyPath, hpolicy, modelPath, hmodel, policyPath', hpolicy', modelPath', hmodel', hs⟩ := h
  obtain rfl := Except.ok.inj hs
  exact ⟨reads_of_field hform hpolicy hpolicy', reads_of_field hform hmodel hmodel'⟩

/-- Where the sections are read from. -/
theorem reads_of_ofTree {s : Settings} (h : ofTree t = .ok s) :
    Reads t "server" readServer s.server ∧ Reads t "logging" readLogging s.logging ∧
      Reads t "token" readToken s.token ∧ Reads t "policy" readPolicy s.policy := by
  simp only [ofTree, bind_eq_ok_iff] at h
  obtain ⟨f, hform, server, hserver, logging, hlogging, token, htoken, policy, hpolicy, users, -, server', hserver',
    logging', hlogging', token', htoken', policy', hpolicy', hs⟩ := h
  obtain rfl := Except.ok.inj hs
  exact ⟨reads_of_field hform hserver hserver', reads_of_field hform hlogging hlogging',
    reads_of_field hform htoken htoken', reads_of_field hform hpolicy hpolicy'⟩

end Gatehouse.Settings
