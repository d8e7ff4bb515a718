import Mathlib
import Gatehouse.Proofs.Settings.Scalar
import Gatehouse.Proofs.Toml.Distinct

/-!
# Which layer decides

A setting that is a single value is decided by the first layer that gives it (`ScalarSetting.deciding`): its variable,
which the environment file gives only where the environment does not have it; the settings file; what is built in. No
layer that gives other settings has a part in this. Settings are loaded exactly when each is what its deciding value is
converted to (`load_eq_ok_iff_deciding`); a value of another type makes the loading fail, whatever the layers below say.
-/

namespace Gatehouse.Settings

open ScalarSetting (all)

variable {x : ScalarSetting} {files : Files} {env : Environment} {doc : List (String × Toml.Value)} {s : Settings}

/-! ## The settings file -/

/-- The members that the settings file gives: those of its document, or none if there is no such file. -/
def FileGives (files : Files) (doc : List (String × Toml.Value)) : Prop :=
  (∃ bytes, files.content? fileName = some bytes ∧ Toml.document? (fileText bytes) = some doc) ∨
    (∀ candidate ∈ candidates, files.content? candidate.1 = none) ∧ doc = []

/-- Whether a value is a table. -/
def isTable : Toml.Value → Bool
  | .table _ => true
  | _ => false

/-- A document with no other keys than users and the sections, which are tables. -/
def Documented (doc : List (String × Toml.Value)) : Prop :=
  ∀ member ∈ doc, member.1 = "users" ∨ member.1 ∈ groups ∧ isTable member.2 = true

instance (doc : List (String × Toml.Value)) : Decidable (Documented doc) :=
  inferInstanceAs (Decidable (∀ member ∈ doc, _))

/-- The settings are those of the document. -/
theorem FileGives.ofFiles_eq (h : FileGives files doc) : ofFiles files = .ok (ofTomlMembers fileName doc) := by
  rcases h with ⟨bytes, hcontent, hdocument⟩ | ⟨hnone, rfl⟩
  · simp only [ofFiles, candidates, readFirst, hcontent, readDocument, hdocument]
  · simp only [candidates, List.forall_mem_cons] at hnone
    simp only [ofFiles, candidates, readFirst, hnone, ofTomlMembers]

/-- Nothing in the document is defined twice. -/
theorem FileGives.distinct (h : FileGives files doc) : (Toml.Value.table doc).Distinct := by
  rcases h with ⟨bytes, -, hdocument⟩ | ⟨-, rfl⟩
  · exact Toml.distinct_of_document hdocument
  · exact .table List.nodup_nil nofun

/-- A section of the document is a table with distinct names. -/
theorem exists_section (hdoc : Documented doc) (hdistinct : (Toml.Value.table doc).Distinct) {group : String}
    (hgroup : group ∈ groups) {v : Toml.Value} (hlookup : doc.lookup group = some v) :
    ∃ members, v = .table members ∧ (members.map Prod.fst).Nodup := by
  have hmem := Lookup.mem_of_lookup_eq_some hlookup
  have husers : group ≠ "users" := by
    rintro rfl
    revert hgroup
    decide
  obtain ⟨-, htable⟩ := (hdoc _ hmem).resolve_left husers
  cases hdistinct with
  | table _ hvalues =>
    have hv := hvalues _ hmem
    dsimp only at hv htable
    cases hv with
    | table hnames _ => exact ⟨_, rfl, hnames⟩
    | _ => cases htable

namespace ScalarSetting

/-! ## What decides a setting -/

/-- The text of the variable of a setting: that of the environment or, if it is not there, of the environment file. One
without characters gives nothing. -/
def inEnvironment? (x : ScalarSetting) (files : Files) (env : Environment) : Option String :=
  ((env.get? x.envName).or ((assignedBy files env).lookup x.envName)).filter (· ≠ "")

/-- The value that a document gives a setting, in its section. -/
def inDocument? (x : ScalarSetting) (doc : List (String × Toml.Value)) : Option Toml.Value :=
  match doc.lookup x.group with
  | some (.table members) => members.lookup x.name
  | _ => none

/-- The value that decides a setting: that of its variable, else that of the settings file, else the built-in one. -/
def deciding (x : ScalarSetting) (files : Files) (env : Environment) (doc : List (String × Toml.Value)) : Option Tree :=
  ((x.inEnvironment? files env).map fun text => .scalar (some environmentSource) (.ofText text)).or
    (((x.inDocument? doc).map (ofToml fileName)).or (x.builtIn.map (.scalar none)))

/-! ## Conversion -/

/-- No table is a single value. -/
theorem read_table_ne (hx : x ∈ all) (origin : Option String) (members : List (String × Tree)) (key : String)
    (a : x.Value) : x.read (.table origin members) key ≠ .ok a := by
  simp only [all, List.mem_cons, List.not_mem_nil, or_false] at hx
  intro h
  rcases hx with rfl | rfl | rfl | rfl | rfl | rfl | rfl | rfl | rfl | rfl
  all_goals cases h

/-- What was there before does not matter for the conversion of what is laid over it. -/
theorem converts_merge_iff (hx : x ∈ all) (base v : Tree) : x.Converts (base.merge v) s ↔ x.Converts v s := by
  cases v with
  | scalar origin v => rw [Tree.merge]
  | list origin items => rw [Tree.merge]
  | table origin members =>
    rw [Tree.merge]
    exact ⟨fun h => absurd h (read_table_ne hx _ _ _ _), fun h => absurd h (read_table_ne hx _ _ _ _)⟩

/-- Of a value laid over another one the upper counts. -/
theorem exists_converts_laid_iff (hx : x ∈ all) (old new : Option Tree) :
    (∃ v, Tree.laid old new = some v ∧ x.Converts v s) ↔ ∃ v, new.or old = some v ∧ x.Converts v s := by
  cases new with
  | none => rfl
  | some new =>
    simp only [Tree.laid, Option.some_or, Option.some.injEq, exists_eq_left', converts_merge_iff hx]

end ScalarSetting

/-! ## Layers over each other -/

/-- The keys of a document with the documented keys are plain names. -/
theorem pathOf_of_documented (hdoc : Documented doc) :
    ∀ entry ∈ ofTomlMembers fileName doc, Tree.pathOf entry.1 = [.member entry.1] := by
  intro entry hentry
  have hname : entry.1 ∈ doc.map Prod.fst := by
    rw [← names_ofTomlMembers fileName]
    exact List.mem_map_of_mem hentry
  obtain ⟨member, hmember, hname⟩ := List.mem_map.1 hname
  have hplain : ∀ name ∈ "users" :: groups, Tree.pathOf name = [.member name] := by decide +kernel
  refine hplain entry.1 (List.mem_cons.2 ?_)
  rw [← hname]
  exact (hdoc member hmember).imp_right And.left

/-- A document lays its members over those of a tree. -/
theorem member?_putAll_document (hdoc : Documented doc) (hdistinct : (Toml.Value.table doc).Distinct) (t : Tree)
    (name : String) : (t.putAll (ofTomlMembers fileName doc)).member? name =
      Tree.laid (t.member? name) ((doc.lookup name).map (ofToml fileName)) := by
  cases hdistinct with
  | table hnames _ =>
    rw [← names_ofTomlMembers fileName] at hnames
    rw [Tree.member?_putAll (pathOf_of_documented hdoc) hnames, lookup_ofTomlMembers]

/-- What the settings file gives a setting is laid over what was there. -/
theorem at?_putAll_document (hdoc : Documented doc) (hdistinct : (Toml.Value.table doc).Distinct) (hx : x ∈ all)
    (t : Tree) : (t.putAll (ofTomlMembers fileName doc)).at? x.names =
      Tree.laid (t.at? x.names) ((x.inDocument? doc).map (ofToml fileName)) := by
  rw [ScalarSetting.names, Tree.at?_pair, Tree.at?_pair, member?_putAll_document hdoc hdistinct,
    ScalarSetting.inDocument?]
  cases hlookup : doc.lookup x.group with
  | none => rfl
  | some v =>
    obtain ⟨-, -, hgroup⟩ := ScalarSetting.keyOfVariable?_of_mem hx
    obtain ⟨members, rfl, hnames⟩ := exists_section hdoc hdistinct hgroup hlookup
    rw [← names_ofTomlMembers fileName] at hnames
    simp only [Option.map_some, Tree.laid, ofToml, Option.bind_some, Tree.member?_merge_table hnames,
      lookup_ofTomlMembers]
    -- Where there is no section yet, none of its members is there.
    cases t.member? x.group with
    | none => rfl
    | some old => rfl

/-- Sources of settings as they are documented: the file gives sections and users, each name is in the environment once,
and of the variables of this program only those of single values are set there and in the environment file. -/
structure Sources (files : Files) (env : Environment) (doc : List (String × Toml.Value)) : Prop where
  file : FileGives files doc
  documented : Documented doc
  names : env.names.Nodup
  environment : OnlyScalars env.names
  assigned : OnlyScalars ((assignedBy files env).map Prod.fst)

namespace Sources

/-- Each name is in the environment once when the environment file is read too. -/
theorem names_full (h : Sources files env doc) : (fullEnvironment files env).names.Nodup := by
  rw [fullEnvironment_eq_setAll]
  exact Environment.nodup_names_setAll h.names _

/-- The variables of the environment file are for single values as well. -/
theorem onlyScalars_full (h : Sources files env doc) : OnlyScalars (fullEnvironment files env).names := by
  rw [fullEnvironment_eq_setAll]
  exact fun name hname => (Environment.mem_names_setAll hname).elim (h.environment name) (h.assigned name)

/-- What stands at the place of a setting, over all layers. -/
theorem at?_layers (h : Sources files env doc) (hx : x ∈ all) :
    (layers (ofTomlMembers fileName doc) (fullEnvironment files env)).at? x.names =
      ((x.inEnvironment? files env).map fun text => .scalar (some environmentSource) (.ofText text)).or
        (Tree.laid (x.builtIn.map (.scalar none)) ((x.inDocument? doc).map (ofToml fileName))) := by
  have hempty : Tree.empty.at? x.names = none := rfl
  rw [layers, (givesScalars_ofEnvironment h.names_full h.onlyScalars_full).at?_putAll hx,
    at?_putAll_document h.documented h.file.distinct hx, givesScalars_defaults.at?_putAll hx,
    lookup_ofEnvironment h.names_full h.onlyScalars_full hx, lookup_defaults hx, hempty, Option.or_none,
    fullEnvironment_eq_setAll, Environment.get?_setAll]
  rfl

/-- What stands at the place of a setting is converted as the value that decides it. -/
theorem exists_converts_iff (h : Sources files env doc) (hx : x ∈ all) :
    (∃ v, (layers (ofTomlMembers fileName doc) (fullEnvironment files env)).at? x.names = some v ∧ x.Converts v s) ↔
      ∃ v, x.deciding files env doc = some v ∧ x.Converts v s := by
  rw [h.at?_layers hx, ScalarSetting.deciding]
  cases x.inEnvironment? files env with
  | none => exact ScalarSetting.exists_converts_laid_iff hx _ _
  | some text => rfl

/-- Where a setting has a built-in value, something stands at its place, so every section is a table. -/
theorem exists_table (h : Sources files env doc) {group : String} (hgroup : group ∈ groups) :
    ∃ origin members, (layers (ofTomlMembers fileName doc) (fullEnvironment files env)).member? group =
      some (.table origin members) := by
  have hbuiltIn : ∀ group ∈ groups, ∃ x ∈ all, x.group = group ∧ x.builtIn.isSome = true := by decide +kernel
  obtain ⟨x, hx, rfl, hsome⟩ := hbuiltIn group hgroup
  obtain ⟨v, hv⟩ := Option.isSome_iff_exists.1 hsome
  have hthere : ((layers (ofTomlMembers fileName doc) (fullEnvironment files env)).at? x.names).isSome = true := by
    rw [h.at?_layers hx, hv]
    cases x.inEnvironment? files env with
    | some text => rfl
    | none =>
      cases x.inDocument? doc with
      | some w => rfl
      | none => rfl
  exact Tree.table_of_at? hthere

/-- The users are those of the settings file. -/
theorem usersGiven_iff (h : Sources files env doc) (users : List SeedUser) :
    UsersGiven ((layers (ofTomlMembers fileName doc) (fullEnvironment files env)).member? "users") users ↔
      UsersGiven ((doc.lookup "users").map (ofToml fileName)) users := by
  have hempty : Tree.empty.member? "users" = none := rfl
  rw [layers, (givesScalars_ofEnvironment h.names_full h.onlyScalars_full).users_putAll,
    member?_putAll_document h.documented h.file.distinct, givesScalars_defaults.users_putAll, hempty]
  cases (doc.lookup "users").map (ofToml fileName) with
  | none => rfl
  | some v =>
    cases v with
    | scalar origin v => simp only [Tree.laid, Tree.merge]
    | list origin items => simp only [Tree.laid, Tree.merge]
    | table origin members =>
      -- A table is no list, whatever is in it.
      simp only [Tree.laid, Tree.merge, UsersGiven, readList, reduceCtorEq]

end Sources

/-! ## Loading -/

/-- Let settings come from documented sources. They are loaded exactly when each single value is what the value that
decides it is converted to, the users are those of the settings file, and the check is passed. So a deciding value of
another type makes the loading fail, though a layer below may have one of the right type, and so does a token key that no
layer gives. -/
theorem load_eq_ok_iff_deciding (h : Sources files env doc) :
    (∀ s, load files env = .ok s ↔
      (∀ x ∈ all, ∃ v, x.deciding files env doc = some v ∧ x.Converts v s) ∧
        UsersGiven ((doc.lookup "users").map (ofToml fileName)) s.users ∧ s.validate = .ok ()) ∧
      (∀ x ∈ all, ∀ v, x.deciding files env doc = some v → (∀ a, x.read v x.key ≠ .ok a) →
        ∃ e, load files env = .error e) ∧
      ∀ x ∈ all, x.name = "symmetric_key" → x.inEnvironment? files env = none → x.inDocument? doc = none →
        ∃ e, load files env = .error e := by
  have hload (s : Settings) : load files env = .ok s ↔
      (∀ x ∈ all, ∃ v, x.deciding files env doc = some v ∧ x.Converts v s) ∧
        UsersGiven ((doc.lookup "users").map (ofToml fileName)) s.users ∧ s.validate = .ok () := by
    rw [load_eq_ok_iff h.file.ofFiles_eq, ofTree_eq_ok_iff_scalars fun group => h.exists_table, h.usersGiven_iff, and_assoc]
    exact and_congr_left fun _ => forall₂_congr fun x hx => h.exists_converts_iff hx
  refine ⟨hload, fun x hx v hv htype => ?_, fun x hx hkey henv hdoc => ?_⟩
  · refine exists_error_of_load fun s hs => ?_
    obtain ⟨v', hv', hconverts⟩ := ((hload s).1 hs).1 x hx
    obtain rfl := Option.some.inj (hv.symm.trans hv')
    exact htype _ hconverts
  · refine exists_error_of_load fun s hs => ?_
    obtain ⟨v, hv, -⟩ := ((hload s).1 hs).1 x hx
    have hbuiltIn : ∀ x ∈ all, x.name = "symmetric_key" → x.builtIn = none := by decide +kernel
    rw [ScalarSetting.deciding, henv, hdoc, hbuiltIn x hx hkey] at hv
    cases hv

namespace Sample

/-- A settings file with two sections. -/
def document : String :=
  "[server]\nport = 7000\n[token]\nsymmetric_key = \"0123456789abcdef0123456789abcdef\"\naudience = \"file\"\n"

/-- An environment file with three variables. -/
def assignments : String :=
  "SCOREIT__SERVER__PORT=1\nSCOREIT__TOKEN__ISSUER=assigned\nSCOREIT__TOKEN__AUDIENCE=assigned\n"

/-- The two files. -/
def bothFiles : Files :=
  .ofList
    [(fileName, .content (Text.Utf8.ofString document)), (environmentFile, .content (Text.Utf8.ofString assignments))]

/-- An environment with a port, and with an audience that has no characters. -/
def environment (port : String) : Environment := ⟨[("SCOREIT__SERVER__PORT", port), ("SCOREIT__TOKEN__AUDIENCE", "")]⟩

/-- The two environments and the files are documented sources, with the members of the settings file. -/
theorem exists_sources : ∃ doc, ∀ port ∈ ["9000", "many"], Sources bothFiles (environment port) doc := by
  have hdocument : (Toml.document? (fileText (Text.Utf8.ofString document))).any (fun doc => Documented doc) = true := by
    decide +kernel
  obtain ⟨doc, hdoc, hdocumented⟩ := (Option.any_eq_true _ _).1 hdocument
  have hcontent : bothFiles.content? fileName = some (Text.Utf8.ofString document) := by decide +kernel
  have hnames : ∀ port ∈ ["9000", "many"], (environment port).names.Nodup := by decide
  have henvironment : ∀ port ∈ ["9000", "many"], OnlyScalars (environment port).names := by decide +kernel
  have hassigned : ∀ port ∈ ["9000", "many"], OnlyScalars ((assignedBy bothFiles (environment port)).map Prod.fst) := by
    decide +kernel
  exact ⟨doc, fun port hport => ⟨Or.inl ⟨_, hcontent, hdoc⟩, of_decide_eq_true hdocumented, hnames port hport,
    henvironment port hport, hassigned port hport⟩⟩

/-- The port is that of the environment, the issuer that of the environment file, the audience that of the settings file,
for its variable gives none, and the host is built in. With letters for the port the loading fails, though each of the
two files has a number. -/
theorem load_of_environment : ∃ doc s,
    (Sources bothFiles (environment "9000") doc ∧ load bothFiles (environment "9000") = .ok s ∧
      (∀ x ∈ all, ∃ v, x.deciding bothFiles (environment "9000") doc = some v ∧ x.Converts v s) ∧
      s.server = ⟨"0.0.0.0", 9000⟩ ∧ s.token.issuer = "assigned" ∧ s.token.audience = "file") ∧
    Sources bothFiles (environment "many") doc ∧ ∃ e, load bothFiles (environment "many") = .error e := by
  obtain ⟨doc, hsources⟩ := exists_sources
  have hready := hsources "9000" (by decide)
  have hmany := hsources "many" (by decide)
  let s : Settings :=
    { server := ⟨"0.0.0.0", 9000⟩, logging := ⟨"debug"⟩, policy := ⟨"authz_policy.csv", "authz_model.conf"⟩, users := []
      token := ⟨"0123456789abcdef0123456789abcdef", 900, 86400, "assigned", "file"⟩ }
  have hload : load bothFiles (environment "9000") = .ok s := Outcome.toOption_eq_some_iff.1 (by decide +kernel)
  refine ⟨doc, s, ⟨hready, hload, (((load_eq_ok_iff_deciding hready).1 s).1 hload).1, rfl, rfl, rfl⟩, hmany, ?_⟩
  let port : ScalarSetting := ⟨"server", "port", some (.integer 8080), UInt16, readPort, (·.server.port)⟩
  have hport : port ∈ all := by simp [all, port]
  have hletters : port.inEnvironment? bothFiles (environment "many") = some "many" := by decide +kernel
  refine (load_eq_ok_iff_deciding hmany).2.1 port hport _ (by rw [ScalarSetting.deciding, hletters]; rfl) fun a ha => ?_
  have hnone : (readPort (.scalar (some environmentSource) (.ofText "many")) port.key).toOption = none := by
    decide +kernel
  rw [Outcome.toOption_eq_some_iff.2 ha] at hnone
  cases hnone

end Sample

end Gatehouse.Settings
