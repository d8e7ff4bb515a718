import Mathlib
import Gatehouse.Proofs.Lookup
import Gatehouse.Proofs.Settings.Tree
import Gatehouse.Settings.Load

/-!
# What a layer leaves

A table is laid over a table member by member: where names are distinct, a member of the result is that of the upper
table laid over that of the lower one (`Tree.member?_merge_table`). A source whose keys are plain names is laid over a
tree in the same way (`Tree.member?_putAll`). What is read from all layers and passes its check is loaded
(`load_eq_ok_iff`).
-/

namespace Gatehouse.Settings

/-! ## Members of documents -/

/-- The names of the members of a TOML table. -/
theorem names_ofTomlMembers (file : String) (members : List (String × Toml.Value)) :
    (ofTomlMembers file members).map Prod.fst = members.map Prod.fst := by
  induction members with
  | nil => rw [ofTomlMembers, List.map_nil, List.map_nil]
  | cons member members ih => rw [ofTomlMembers, List.map_cons, List.map_cons, ih]

/-- The member of a name of a TOML table. -/
theorem lookup_ofTomlMembers (file name : String) (members : List (String × Toml.Value)) :
    (ofTomlMembers file members).lookup name = (members.lookup name).map (ofToml file) := by
  induction members with
  | nil => rw [ofTomlMembers, List.lookup_nil, List.lookup_nil, Option.map_none]
  | cons member members ih =>
    obtain ⟨key, v⟩ := member
    rw [ofTomlMembers, List.lookup_cons, List.lookup_cons, ih]
    cases name == key with
    | true => rfl
    | false => rfl

namespace Tree

variable {t : Tree} {name : String} {entries members : List (String × Tree)}

/-! ## Tables over tables -/

/-- What stands at a place after something is laid over it, if anything is. -/
def laid (old : Option Tree) : Option Tree → Option Tree
  | some new => some (merge (old.getD nothing) new)
  | none => old

/-- The members of a name after members with distinct names are laid over others. -/
theorem lookup_mergeMembers (h : (members.map Prod.fst).Nodup) (base : List (String × Tree)) (name : String) :
    (mergeMembers base members).lookup name = laid (base.lookup name) (members.lookup name) := by
  induction members generalizing base with
  | nil => rw [mergeMembers, List.lookup_nil, laid]
  | cons member members ih =>
    obtain ⟨key, new⟩ := member
    obtain ⟨hkey, hrest⟩ := List.nodup_cons.1 h
    rw [mergeMembers, ih hrest]
    by_cases hname : name = key
    · subst hname
      rw [Lookup.lookup_eq_none_iff_not_mem.2 hkey, List.lookup_cons_self, lookup_changeMember]
      rfl
    · rw [lookup_changeMember_of_ne hname, Lookup.lookup_cons_of_ne hname]

/-- The member of a name of a table with distinct names that is laid over a value. -/
theorem member?_merge_table (h : (members.map Prod.fst).Nodup) (t : Tree) (origin : Option String) (name : String) :
    (t.merge (.table origin members)).member? name = laid (t.member? name) (members.lookup name) := by
  rw [merge]
  exact lookup_mergeMembers h t.asTable.2 name

/-- A source whose keys are plain names is laid over a tree as a table. -/
theorem members_putAll (h : ∀ entry ∈ entries, pathOf entry.1 = [.member entry.1]) (t : Tree) :
    (t.putAll entries).asTable.2 = mergeMembers t.asTable.2 entries := by
  induction entries generalizing t with
  | nil =>
    rw [mergeMembers]
    rfl
  | cons entry entries ih =>
    have hput : (t.put entry.1 entry.2).asTable.2 =
        changeMember entry.1 (fun old => old.merge entry.2) t.asTable.2 := by
      rw [put, h entry List.mem_cons_self]
      rfl
    rw [mergeMembers, ← hput]
    exact ih (fun e he => h e (List.mem_cons_of_mem _ he)) _

/-- The member of a name after such a source. -/
theorem member?_putAll (h : ∀ entry ∈ entries, pathOf entry.1 = [.member entry.1])
    (hnames : (entries.map Prod.fst).Nodup) (t : Tree) (name : String) :
    (t.putAll entries).member? name = laid (t.member? name) (entries.lookup name) := by
  rw [member?, members_putAll h]
  exact lookup_mergeMembers hnames t.asTable.2 name

/-! ## Places -/

/-- A place one name away. -/
theorem at?_singleton (t : Tree) (name : String) : t.at? [name] = t.member? name := by
  rw [at?]
  cases t.member? name with
  | none => rfl
  | some sub => rfl

/-- A place two names away. -/
theorem at?_pair (t : Tree) (group name : String) :
    t.at? [group, name] = (t.member? group).bind fun sub => sub.member? name := by
  rw [at?]
  exact congrArg _ (funext fun sub => at?_singleton sub name)

/-- A value with members is a table. -/
theorem eq_table_of_member? {sub : Tree} (h : t.member? name = some sub) :
    ∃ origin members, t = .table origin members := by
  cases t with
  | scalar origin v => cases h
  | list origin items => cases h
  | table origin members => exact ⟨origin, members, rfl⟩

/-- Where something stands two names away, a table stands one name away. -/
theorem table_of_at? {group name : String} (h : (t.at? [group, name]).isSome = true) :
    ∃ origin members, t.member? group = some (.table origin members) := by
  rw [at?_pair] at h
  obtain ⟨sub, hsub⟩ := Option.isSome_iff_exists.1 h
  obtain ⟨middle, hmiddle, hsub⟩ := Option.bind_eq_some_iff.1 hsub
  obtain ⟨origin, members, rfl⟩ := eq_table_of_member? hsub
  exact ⟨origin, members, hmiddle⟩

end Tree

/-! ## Loading -/

variable {files : Files} {env : Environment} {s : Settings}

/-- What is loaded has a settings file that is read. -/
theorem exists_ofFiles_of_load (h : load files env = .ok s) :
    ∃ file, ofFiles files = .ok file := by
  unfold load at h
  split at h
  · cases h
  · next file hfile => exact ⟨file, hfile⟩

/-- Settings are loaded exactly when they are read from all layers and pass their check. -/
theorem load_eq_ok_iff {file : List (String × Tree)} (hfile : ofFiles files = .ok file) :
    load files env = .ok s ↔ ofTree (layers file (fullEnvironment files env)) = .ok s ∧ s.validate = .ok () := by
  unfold load
  rw [hfile]
  dsimp only
  cases ofTree (layers file (fullEnvironment files env)) with
  | error e => exact ⟨nofun, fun h => nomatch h.1⟩
  | ok s' =>
    dsimp only
    cases hvalid : s'.validate with
    | error e =>
      refine ⟨nofun, ?_⟩
      rintro ⟨hs, hvalid'⟩
      obtain rfl := Except.ok.inj hs
      rw [hvalid] at hvalid'
      cases hvalid'
    | ok u =>
      refine ⟨fun hs => ⟨hs, ?_⟩, And.left⟩
      rw [← Except.ok.inj hs, hvalid]

/-- What cannot be loaded fails with an error. -/
theorem exists_error_of_load (h : ∀ s, load files env ≠ .ok s) : ∃ e, load files env = .error e := by
  cases hload : load files env with
  | error e => exact ⟨e, rfl⟩
  | ok s => exact absurd hload (h s)

end Gatehouse.Settings
