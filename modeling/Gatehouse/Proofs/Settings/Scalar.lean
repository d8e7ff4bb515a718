import Mathlib
import Gatehouse.Proofs.Settings.Environment
import Gatehouse.Proofs.Settings.Field

/-!
# Settings without parts

Ten settings are single values. Each has a section, a name there, a variable in the environment and, but for the token
key, a value that is built in. Settings are read from a tree exactly when each of the ten is read from what stands at its
place (`ofTree_eq_ok_iff_scalars`), and a source that gives such values changes the places of those that it gives and no
others (`GivesScalars.at?_putAll`).
-/

namespace Gatehouse.Settings

/-- A setting that is a single value: its section, its name there, what is built in for it, and how it is read. -/
structure ScalarSetting where
  group : String
  name : String
  builtIn : Option Scalar
  Value : Type
  read : Tree → String → Reading Value
  get : Settings → Value

namespace ScalarSetting

/-- All settings that are single values. -/
def all : List ScalarSetting :=
  [⟨"server", "host", some (.text "0.0.0.0"), String, readText, (·.server.host)⟩,
    ⟨"server", "port", some (.integer 8080), UInt16, readPort, (·.server.port)⟩,
    ⟨"logging", "level", some (.text "debug"), String, readText, (·.logging.level)⟩,
    ⟨"token", "symmetric_key", none, String, readText, (·.token.symmetricKey)⟩,
    ⟨"token", "access_token_duration_secs", some (.integer 900), Int, readInteger, (·.token.accessSeconds)⟩,
    ⟨"token", "refresh_token_duration_secs", some (.integer 86400), Int, readInteger, (·.token.refreshSeconds)⟩,
    ⟨"token", "issuer", some (.text "scoreit-api"), String, readText, (·.token.issuer)⟩,
    ⟨"token", "audience", some (.text "scoreit-app"), String, readText, (·.token.audience)⟩,
    ⟨"policy", "policy_path", some (.text "authz_policy.csv"), String, readText, (·.policy.policyPath)⟩,
    ⟨"policy", "model_path", some (.text "authz_model.conf"), String, readText, (·.policy.modelPath)⟩]

variable {x y : ScalarSetting} {s : Settings}

/-- The names on the way to a setting. -/
def names (x : ScalarSetting) : List String := [x.group, x.name]

/-- The key of a setting. -/
def key (x : ScalarSetting) : String := x.group ++ "." ++ x.name

/-- The environment variable of a setting. -/
def envName (x : ScalarSetting) : String :=
  let upper (s : String) : String := String.ofList (s.toList.map Char.toUpper)
  "SCOREIT__" ++ upper x.group ++ "__" ++ upper x.name

example : all.map envName =
    ["SCOREIT__SERVER__HOST", "SCOREIT__SERVER__PORT", "SCOREIT__LOGGING__LEVEL", "SCOREIT__TOKEN__SYMMETRIC_KEY",
      "SCOREIT__TOKEN__ACCESS_TOKEN_DURATION_SECS", "SCOREIT__TOKEN__REFRESH_TOKEN_DURATION_SECS",
      "SCOREIT__TOKEN__ISSUER", "SCOREIT__TOKEN__AUDIENCE", "SCOREIT__POLICY__POLICY_PATH",
      "SCOREIT__POLICY__MODEL_PATH"] := by
  decide +kernel

/-- A value is of the type of a setting, and some settings have what it is converted to. -/
def Converts (x : ScalarSetting) (v : Tree) (s : Settings) : Prop := x.read v x.key = .ok (x.get s)

/-! ## Names and places -/

/-- The variable of a setting is for its key, and its key is for its place, which is in a section. -/
theorem keyOfVariable?_of_mem (hx : x ∈ all) :
    keyOfVariable? x.envName = some x.key ∧ Tree.pathOf x.key = Tree.steps x.names ∧ x.group ∈ groups := by
  revert x
  decide +kernel

/-- Settings with one key have one variable, and the places of others are apart. -/
theorem apart_of_mem (hx : x ∈ all) (hy : y ∈ all) :
    (x.key = y.key → x.envName = y.envName) ∧ (x.key ≠ y.key → Tree.Apart x.names (Tree.pathOf y.key)) := by
  have hall : ∀ x ∈ all, ∀ y ∈ all,
      (x.key = y.key → x.envName = y.envName) ∧ (x.key ≠ y.key → Tree.Apart x.names (Tree.pathOf y.key)) := by
    decide +kernel
  exact hall x hx y hy

/-- No setting is among the users. -/
theorem users_apart (hx : x ∈ all) : Tree.Apart ["users"] (Tree.pathOf x.key) := by
  revert x
  decide +kernel

end ScalarSetting

open ScalarSetting (all)

variable {x : ScalarSetting} {entries : List (String × Tree)} {env : Environment}

/-! ## Reading -/

/-- Settings are read from a tree of sections exactly when every single value is of the type of its setting, and the
users are given. -/
theorem ofTree_eq_ok_iff_scalars {t : Tree} {s : Settings}
    (h : ∀ group ∈ groups, ∃ origin members, t.member? group = some (.table origin members)) :
    ofTree t = .ok s ↔ (∀ x ∈ all, ∃ v, t.at? x.names = some v ∧ x.Converts v s) ∧
      UsersGiven (t.member? "users") s.users := by
  rw [ofTree_eq_ok_iff h]
  simp only [all, List.forall_mem_cons, List.not_mem_nil, false_imp_iff, implies_true, and_true, and_assoc]
  rfl

/-! ## Sources of single values -/

/-- A source that gives single values, each at most once. -/
structure GivesScalars (entries : List (String × Tree)) : Prop where
  names : (entries.map Prod.fst).Nodup
  scalars : ∀ entry ∈ entries, ∃ x ∈ all, ∃ origin v, entry = (x.key, .scalar origin v)

/-- Every setting that such a source gives has its value from there; the others stay as they are. -/
theorem GivesScalars.at?_putAll (h : GivesScalars entries) (hx : x ∈ all) (t : Tree) :
    (t.putAll entries).at? x.names = (entries.lookup x.key).or (t.at? x.names) := by
  have hapart {entry : String × Tree} (hentry : entry ∈ entries) (hkey : x.key ≠ entry.1) :
      Tree.Apart x.names (Tree.pathOf entry.1) := by
    obtain ⟨y, hy, origin, v, rfl⟩ := h.scalars entry hentry
    exact (ScalarSetting.apart_of_mem hx hy).2 hkey
  cases hlookup : entries.lookup x.key with
  | none =>
    have hnone := Lookup.lookup_eq_none_iff_not_mem.1 hlookup
    exact Tree.at?_putAll_of_apart (fun entry hentry =>
      hapart hentry fun hkey => hnone (hkey ▸ List.mem_map_of_mem hentry)) t
  | some given =>
    obtain ⟨before, after, rfl, -⟩ := List.lookup_eq_some_iff.1 hlookup
    obtain ⟨y, hy, origin, v, hgiven⟩ := h.scalars (x.key, given) (by simp)
    obtain ⟨-, rfl⟩ := Prod.mk.inj hgiven
    obtain ⟨-, hpath, -⟩ := ScalarSetting.keyOfVariable?_of_mem hx
    refine Tree.at?_putAll_scalar hpath origin v (fun entry hentry => hapart (by simp [hentry]) ?_) t
    -- Its key stands before, and each key stands there once.
    intro hkey
    have hnames := h.names
    rw [List.map_append, List.nodup_append, List.map_cons, List.nodup_cons] at hnames
    have hafter : entry.1 ∈ after.map Prod.fst := List.mem_map_of_mem hentry
    exact hnames.2.1.1 (hkey ▸ hafter)

/-- Such a source leaves the users alone. -/
theorem GivesScalars.users_putAll (h : GivesScalars entries) (t : Tree) :
    (t.putAll entries).member? "users" = t.member? "users" := by
  rw [← Tree.at?_singleton, ← Tree.at?_singleton]
  refine Tree.at?_putAll_of_apart (fun entry hentry => ?_) t
  obtain ⟨x, hx, origin, v, rfl⟩ := h.scalars entry hentry
  exact ScalarSetting.users_apart hx

/-- The built-in values are those of the settings that have one. -/
theorem defaults_eq_filterMap :
    defaults = all.filterMap fun x => x.builtIn.map fun v => (x.key, Tree.scalar none v) := rfl

/-- The built-in values are single values. -/
theorem givesScalars_defaults : GivesScalars defaults := by
  refine ⟨by decide +kernel, fun entry hentry => ?_⟩
  rw [defaults_eq_filterMap] at hentry
  obtain ⟨x, hx, hbuiltIn⟩ := List.mem_filterMap.1 hentry
  obtain ⟨v, -, rfl⟩ := Option.map_eq_some_iff.1 hbuiltIn
  exact ⟨x, hx, none, v, rfl⟩

/-- What is built in for a setting. -/
theorem lookup_defaults (hx : x ∈ all) : defaults.lookup x.key = x.builtIn.map (.scalar none) := by
  cases hbuiltIn : x.builtIn with
  | none =>
    have hnone : ∀ x ∈ all, x.builtIn = none → x.key ∉ defaults.map Prod.fst := by decide +kernel
    exact Lookup.lookup_eq_none_iff_not_mem.2 (hnone x hx hbuiltIn)
  | some v =>
    refine (Lookup.lookup_eq_some_iff_mem givesScalars_defaults.names).2 ?_
    rw [defaults_eq_filterMap]
    exact List.mem_filterMap.2 ⟨x, hx, by rw [hbuiltIn, Option.map_some]⟩

/-- Of some names of variables, those that are for settings are the variables of single values. -/
def OnlyScalars (names : List String) : Prop :=
  ∀ name ∈ names, (keyOfVariable? name).isSome = true → ∃ x ∈ all, name = x.envName

instance (names : List String) : Decidable (OnlyScalars names) :=
  inferInstanceAs (Decidable (∀ name ∈ names, _ → ∃ x ∈ all, name = x.envName))

/-- What a variable gives. -/
def ofVariable (entry : String × String) : Option (String × Tree) :=
  if entry.2.isEmpty then none
  else (keyOfVariable? entry.1).map fun key => (key, .scalar (some environmentSource) (.ofText entry.2))

/-- The environment gives what each of its variables gives. -/
theorem ofEnvironment_eq_filterMap (env : Environment) : ofEnvironment env = env.entries.filterMap ofVariable := rfl

/-- The variable of a setting gives its text for the setting, if it has one. -/
theorem ofVariable_envName (hx : x ∈ all) {text : String} (htext : text ≠ "") :
    ofVariable (x.envName, text) = some (x.key, .scalar (some environmentSource) (.ofText text)) := by
  rw [ofVariable, if_neg (mt String.isEmpty_iff.1 htext), (ScalarSetting.keyOfVariable?_of_mem hx).1, Option.map_some]

/-- What a variable gives, it gives with a text for the setting of its name. -/
theorem exists_of_ofVariable {names : List String} (h : OnlyScalars names) {entry : String × String}
    (hentry : entry.1 ∈ names) {given : String × Tree} (hgives : ofVariable entry = some given) :
    ∃ x ∈ all, entry.1 = x.envName ∧ entry.2 ≠ "" ∧
      given = (x.key, .scalar (some environmentSource) (.ofText entry.2)) := by
  unfold ofVariable at hgives
  split_ifs at hgives with hempty
  obtain ⟨key, hkey, rfl⟩ := Option.map_eq_some_iff.1 hgives
  obtain ⟨x, hx, hname⟩ := h entry.1 hentry (Option.isSome_iff_exists.2 ⟨key, hkey⟩)
  rw [hname, (ScalarSetting.keyOfVariable?_of_mem hx).1] at hkey
  obtain rfl := Option.some.inj hkey
  exact ⟨x, hx, hname, mt String.isEmpty_iff.2 hempty, rfl⟩

/-- The environment gives single values, if its variables are for those only. -/
theorem givesScalars_ofEnvironment (hnames : env.names.Nodup) (h : OnlyScalars env.names) :
    GivesScalars (ofEnvironment env) := by
  rw [ofEnvironment_eq_filterMap]
  constructor
  · rw [List.Nodup, List.pairwise_map, List.pairwise_filterMap]
    refine (List.pairwise_map.1 hnames).imp_of_mem fun {entry entry'} hentry hentry' hne given hgiven given' hgiven' => ?_
    obtain ⟨x, hx, hname, -, rfl⟩ := exists_of_ofVariable h (List.mem_map_of_mem hentry) hgiven
    obtain ⟨x', hx', hname', -, rfl⟩ := exists_of_ofVariable h (List.mem_map_of_mem hentry') hgiven'
    rw [hname, hname'] at hne
    exact fun hkey => hne ((ScalarSetting.apart_of_mem hx hx').1 hkey)
  · intro given hgiven
    obtain ⟨entry, hentry, hgives⟩ := List.mem_filterMap.1 hgiven
    obtain ⟨x, hx, -, -, rfl⟩ := exists_of_ofVariable h (List.mem_map_of_mem hentry) hgives
    exact ⟨x, hx, _, _, rfl⟩

/-- What the environment gives for a setting is the value of the text of its variable. -/
theorem mem_ofEnvironment_iff (hnames : env.names.Nodup) (h : OnlyScalars env.names) (hx : x ∈ all) {given : Tree} :
    (x.key, given) ∈ ofEnvironment env ↔ ∃ text, (env.get? x.envName = some text ∧ text ≠ "") ∧
      .scalar (some environmentSource) (.ofText text) = given := by
  rw [ofEnvironment_eq_filterMap, List.mem_filterMap]
  constructor
  · rintro ⟨⟨name, text⟩, hentry, hgives⟩
    obtain ⟨y, hy, hname, htext, hgiven⟩ := exists_of_ofVariable h (List.mem_map_of_mem hentry) hgives
    obtain ⟨hkey, rfl⟩ := Prod.mk.inj hgiven
    obtain rfl : name = x.envName := hname.trans ((ScalarSetting.apart_of_mem hx hy).1 hkey).symm
    exact ⟨text, ⟨(Lookup.lookup_eq_some_iff_mem hnames).2 hentry, htext⟩, rfl⟩
  · rintro ⟨text, ⟨hget, htext⟩, rfl⟩
    exact ⟨(x.envName, text), Lookup.mem_of_lookup_eq_some hget, ofVariable_envName hx htext⟩

/-- The value that the environment gives for a setting, if the text of its variable has one. -/
theorem lookup_ofEnvironment (hnames : env.names.Nodup) (h : OnlyScalars env.names) (hx : x ∈ all) :
    (ofEnvironment env).lookup x.key = ((env.get? x.envName).filter (· ≠ "")).map fun text =>
      .scalar (some environmentSource) (.ofText text) := by
  refine Option.ext fun given => ?_
  rw [Lookup.lookup_eq_some_iff_mem (givesScalars_ofEnvironment hnames h).names, mem_ofEnvironment_iff hnames h hx,
    Option.map_eq_some_iff]
  simp only [Option.filter_eq_some_iff, decide_eq_true_eq]

end Gatehouse.Settings
