import Mathlib
import Gatehouse.Proofs.Auth.Failures
import Gatehouse.Proofs.Auth.Flow
import Gatehouse.Proofs.Http.RefreshToken
import Gatehouse.Proofs.Identity.Seed
import Gatehouse.Proofs.Settings.Lifetime

/-!
# What checked settings are good for

The check of the settings asks for a key of the size that token makers take, and for lifetimes that are durations and
end at instants. So nothing that is made from checked settings fails for their values: there are a maker and a flow, and
every token that is asked for is issued, lasts as long as the settings say and verifies at once
(`Settings.starts_of_validate`). What can still fail at the start are the users and the policy.
-/

namespace Gatehouse

open Outcome

/-- A year and a day. -/
def Duration.yearAndDay : Duration := { nanoseconds := 366 * 24 * 60 * 60 * 1000000000 }

/-- A token was issued for so many seconds, and verifies at the instant of its issue. -/
structure TokenMaker.LastsFor (maker : TokenMaker) (now : Instant) (seconds : Int) (token : String) (c : Claims) :
    Prop where
  issuedAt_eq : c.issuedAt = now.floor
  lifetime_eq : c.expireAt.nanosecondsSince c.issuedAt = seconds * 1000000000
  verify_eq : maker.verify now token = .ok c

/-- A token that is issued for a positive number of seconds lasts for that many and verifies at once. -/
theorem TokenMaker.lastsFor_of_issue {maker : TokenMaker} {now : Instant} {id userId : Uuid} {roles : List Role}
    {lifetime : Duration} {token : String} {c : Claims} {seconds : Int}
    (h : maker.issue now id userId roles lifetime = .ok (token, c)) (hnow : Instant.epoch ≤ now)
    (hseconds : 1 ≤ seconds) (hlifetime : lifetime.nanoseconds = seconds * 1000000000) :
    maker.LastsFor now seconds token c := by
  obtain ⟨-, expireAt, hadd, hclaims⟩ := issue_eq_ok_iff.1 h
  have hlive : now < c.expireAt := by
    rw [hclaims]
    exact Instant.lt_of_add? hadd (by omega)
  refine ⟨by rw [hclaims], ?_, (verify_of_issue h hnow (by omega) le_rfl).1 hlive⟩
  obtain ⟨hsum, -⟩ := Instant.add?_eq_some_iff.1 hadd
  rw [hclaims, Instant.nanosecondsSince, hsum, hlifetime]
  ring

/-- A token is issued for every lifetime of at most a year and a day, while that much time is left on the clock. -/
theorem TokenMaker.exists_issue {now : Instant} {lifetime : Duration} (hroom : (now.add? .yearAndDay).isSome = true)
    (hforward : 0 ≤ lifetime.nanoseconds) (hlifetime : lifetime.nanoseconds ≤ Duration.yearAndDay.nanoseconds)
    (maker : TokenMaker) (id userId : Uuid) (roles : List Role) :
    ∃ issued, maker.issue now id userId roles lifetime = .ok issued := by
  have hend : (now.floor.add? lifetime).isSome = true := by
    obtain ⟨-, hlatest⟩ := Instant.isSome_add?_iff.1 hroom
    have hearliest := now.earliest_le
    rw [Instant.isSome_add?_iff]
    simp only [Instant.nanoseconds, Instant.floor_seconds, Instant.floor_nanos] at hlatest ⊢
    omega
  obtain ⟨expireAt, hadd⟩ := Option.isSome_iff_exists.1 hend
  exact ⟨(_, _), issue_eq_ok_iff.2 ⟨rfl, expireAt, hadd, rfl⟩⟩

namespace Auth.Flow

variable {flow : Flow} {now : Instant}

/-- With lifetimes of at most a year and a day, a token can only not be made because the token maker fails. -/
theorem Fails.exists_fault {e : TokenError} (h : flow.Fails now (.token e))
    (hroom : (now.add? .yearAndDay).isSome = true)
    (haccess : 0 ≤ flow.accessLifetime.nanoseconds ∧
      flow.accessLifetime.nanoseconds ≤ Duration.yearAndDay.nanoseconds)
    (hrefresh : 0 ≤ flow.refreshLifetime.nanoseconds ∧
      flow.refreshLifetime.nanoseconds ≤ Duration.yearAndDay.nanoseconds) : ∃ n, flow.faults.issue n = some e := by
  obtain ⟨s, s', userId, roles, lifetime, hlifetime, hissue⟩ := h.exists_issue
  have hbounds : 0 ≤ lifetime.nanoseconds ∧ lifetime.nanoseconds ≤ Duration.yearAndDay.nanoseconds := by
    rcases hlifetime with rfl | rfl
    · exact haccess
    · exact hrefresh
  obtain ⟨issued, hissued⟩ := TokenMaker.exists_issue hroom hbounds.1 hbounds.2 flow.maker (flow.ids s.issued) userId roles
  refine ⟨s.issued, ?_⟩
  have houtcome : faultOr (flow.faults.issue s.issued) (.ok issued) = .error e := by
    rw [← hissued]
    exact congrArg Prod.snd hissue
  cases hfault : flow.faults.issue s.issued with
  | none =>
    rw [hfault] at houtcome
    cases houtcome
  | some fault =>
    rw [hfault] at houtcome
    rw [Except.error.inj houtcome]

end Auth.Flow

namespace Settings

variable {s : Settings}

/-- Checked settings have a token maker: the key has as many bytes as a maker asks for. -/
theorem exists_maker (h : s.validate = .ok ()) : ∃ maker, s.token.maker = .ok maker := by
  obtain ⟨hkey, -⟩ := validate_eq_ok_iff.1 h
  rw [← Text.Utf8.length_ofString] at hkey
  exact ⟨_, dif_pos hkey⟩

/-- A number of seconds that a token may last is a lifetime. -/
theorem exists_lifetime {seconds : Int} (h : isLifetime seconds = true) (name : String) :
    ∃ d, Auth.Flow.lifetime name seconds = .ok d := by
  obtain ⟨hleast, hmost⟩ := isLifetime_iff.1 h
  have hbounds : -Duration.limit ≤ seconds * 1000000000 ∧ seconds * 1000000000 ≤ Duration.limit := by
    unfold Duration.limit
    unfold maxSeconds at hmost
    omega
  refine ⟨⟨seconds * 1000000000, hbounds.1, hbounds.2⟩, ?_⟩
  unfold Auth.Flow.lifetime Duration.ofSeconds?
  rw [dif_pos hbounds]

/-- Checked settings have a flow over every backend. -/
theorem exists_flow (h : s.validate = .ok ()) (backend : Auth.Backend) : ∃ flow, s.token.flow backend = .ok flow := by
  obtain ⟨-, haccess, hrefresh⟩ := validate_eq_ok_iff.1 h
  obtain ⟨access, ha⟩ := exists_lifetime haccess "access_token_duration_secs"
  obtain ⟨refresh, hr⟩ := exists_lifetime hrefresh "refresh_token_duration_secs"
  unfold Token.flow Auth.Flow.ofSeconds
  rw [ha, hr]
  exact ⟨_, rfl⟩

end Settings

namespace Startup

variable {s : Settings}

/-- The names of the users to enter are those of the settings. -/
theorem map_username_entries (start : Startup) (users : List Settings.SeedUser) :
    (start.entries users).map (·.2.1.username) = users.map (·.username) := by
  rw [entries, List.map_map]
  conv_rhs => rw [← List.zipIdx_map_fst 0 users, List.map_map]
  rfl

/-- With checked settings a start fails when a name repeats an earlier one, or else when there is no policy engine. -/
theorem serve_eq_error_iff (h : s.validate = .ok ()) {start : Startup} {files : Files} {e : StartupError} :
    start.serve files s = .error e ↔
      (∃ name, FirstRepeated (s.users.map (·.username)) name ∧ e = .users (.conflict ("username " ++ name))) ∨
        (s.users.map (·.username)).Nodup ∧
          ∃ cause, Policy.Engine.ofSource files s.policy.source = .error cause ∧ e = .service cause := by
  obtain ⟨maker, hmaker⟩ := Settings.exists_maker h
  have hseed (cause : StoreError) : start.seed s.users = .error cause ↔
      ∃ name, FirstRepeated (s.users.map (·.username)) name ∧ cause = .conflict ("username " ++ name) := by
    rw [seed, UserStore.seed_empty_eq_error_iff, map_username_entries]
  have hseeded : (∃ users, start.seed s.users = .ok users) ↔ (s.users.map (·.username)).Nodup := by
    rw [seed, UserStore.exists_seed_empty_iff, map_username_entries]
  simp only [serve, bind_eq_error_iff, mapError_eq_error_iff, mapError_eq_ok_iff]
  constructor
  · rintro (⟨fault, hfault, -⟩ | ⟨maker', -, ⟨cause, hcause, rfl⟩ | ⟨users, husers, hrest⟩⟩)
    · rw [hmaker] at hfault
      cases hfault
    · obtain ⟨name, hname, rfl⟩ := (hseed cause).1 hcause
      exact Or.inl ⟨name, hname, rfl⟩
    · refine Or.inr ⟨hseeded.1 ⟨users, husers⟩, ?_⟩
      rcases hrest with ⟨cause, hcause, rfl⟩ | ⟨engine, -, ⟨fault, hfault, -⟩ | ⟨flow, -, hready⟩⟩
      · exact ⟨cause, hcause, rfl⟩
      · obtain ⟨flow, hflow⟩ := Settings.exists_flow h ⟨maker', start.tokenIds, {}⟩
        rw [hflow] at hfault
        cases hfault
      · cases hready
  · rintro (⟨name, hname, rfl⟩ | ⟨hdistinct, cause, hcause, rfl⟩)
    · exact Or.inr ⟨maker, hmaker, Or.inl ⟨_, (hseed _).2 ⟨name, hname, rfl⟩, rfl⟩⟩
    · obtain ⟨users, husers⟩ := hseeded.2 hdistinct
      exact Or.inr ⟨maker, hmaker, Or.inr ⟨users, husers, Or.inl ⟨cause, hcause, rfl⟩⟩⟩

end Startup

/-- Let settings pass their check. They have a token maker, and a flow over every backend with that maker. From 1970 on,
as long as a year and a day is left on the clock, every token of a login or a refresh lasts for exactly the seconds of
the settings and verifies at the instant of its issue, and no token is refused but by a fault of the backend. If these are
the settings of some files and an environment, the service starts unless a name of the users repeats an earlier one or the
policy cannot be had, and it reports which. -/
theorem Settings.starts_of_validate {s : Settings} (h : s.validate = .ok ()) :
    ∃ maker, s.token.maker = .ok maker ∧
      (∀ backend : Auth.Backend, backend.maker = maker →
        ∃ flow, s.token.flow backend = .ok flow ∧ flow.toBackend = backend ∧
          ∀ (now : Instant) (state : Auth.State), Instant.epoch ≤ now → (now.add? .yearAndDay).isSome = true →
            (∀ request o, (flow.login now state request).2 = .ok o →
              maker.LastsFor now s.token.accessSeconds o.accessToken o.accessClaims ∧
                maker.LastsFor now s.token.refreshSeconds o.refreshToken o.refreshClaims) ∧
            (∀ token o, (flow.refresh now state token).2 = .ok o →
              maker.LastsFor now s.token.accessSeconds o.accessToken o.accessClaims) ∧
            (∀ request e, (flow.login now state request).2 = .error (.token e) →
              ∃ n, backend.faults.issue n = some e) ∧
            ∀ token e, (flow.refresh now state token).2 = .error (.token e) →
              ∃ n, backend.faults.issue n = some e) ∧
      ∀ (start : Startup) (files : Files) (env : Environment), load files env = .ok s →
        ∀ e, start.run files env = .error e ↔
          (∃ name, FirstRepeated (s.users.map (·.username)) name ∧ e = .users (.conflict ("username " ++ name))) ∨
            (s.users.map (·.username)).Nodup ∧
              ∃ cause, Policy.Engine.ofSource files s.policy.source = .error cause ∧ e = .service cause := by
  obtain ⟨maker, hmaker⟩ := exists_maker h
  obtain ⟨-, haccess, hrefresh⟩ := validate_eq_ok_iff.1 h
  obtain ⟨haccess₁, haccess₂⟩ := isLifetime_iff.1 haccess
  obtain ⟨hrefresh₁, hrefresh₂⟩ := isLifetime_iff.1 hrefresh
  have hyear : Duration.yearAndDay.nanoseconds = maxSeconds * 1000000000 := by decide
  refine ⟨maker, hmaker, fun backend hbackend => ?_, fun start files env hload e => ?_⟩
  · obtain ⟨flow, hflow⟩ := exists_flow h backend
    obtain ⟨rfl, ha, hr⟩ := Auth.Flow.ofSeconds_ok hflow
    refine ⟨flow, hflow, rfl, fun now state hepoch hroom => ?_⟩
    have hfault {e : TokenError} (hfails : flow.Fails now (.token e)) : ∃ n, flow.faults.issue n = some e :=
      hfails.exists_fault hroom (by omega) (by omega)
    refine ⟨fun request o ho => ?_, fun token o ho => ?_, fun request e he => ?_, fun token e he => ?_⟩
    · have hopens := Auth.Flow.opens_of_login (Prod.ext rfl ho)
      rw [← hbackend]
      exact ⟨TokenMaker.lastsFor_of_issue hopens.access_eq hepoch haccess₁ ha,
        TokenMaker.lastsFor_of_issue hopens.refresh_eq hepoch hrefresh₁ hr⟩
    · obtain ⟨c, hrenews⟩ := Auth.Flow.renews_of_refresh (Prod.ext rfl ho)
      rw [← hbackend]
      exact TokenMaker.lastsFor_of_issue hrenews.access_eq hepoch haccess₁ ha
    · exact hfault (Auth.Flow.fails_of_login (Prod.ext rfl he))
    · exact hfault (Auth.Flow.fails_of_refresh (Prod.ext rfl he))
  · rw [← Startup.serve_eq_error_iff h]
    simp only [Startup.run, hload]
    rfl

namespace Startup.Sample

open Auth.Sample (users verify_request)

/-- The text of a settings file with two users of one name. -/
def fileText : String :=
  "[token]\nsymmetric_key = \"0123456789abcdef0123456789abcdef\"\n" ++
    "[[users]]\nusername = \"alice\"\npassword_hash = \"\"\nname = \"\"\nemail = \"\"\n" ++
    "[[users]]\nusername = \"alice\"\npassword_hash = \"\"\nname = \"\"\nemail = \"\"\n"

/-- The settings in the file, and what is built in. -/
def settings : Settings :=
  { server := ⟨"0.0.0.0", 8080⟩, logging := ⟨"debug"⟩, policy := ⟨"authz_policy.csv", "authz_model.conf"⟩
    users := [⟨"alice", "", "", "", []⟩, ⟨"alice", "", "", "", []⟩]
    token := ⟨"0123456789abcdef0123456789abcdef", 900, 86400, "scoreit-api", "scoreit-app"⟩ }

/-- With the settings of the file a login is issued a refresh token for a day. The start fails, for the name. -/
theorem starts_of_validate_of_file :
    let files : Files := .ofList [("config.toml", .content (Text.Utf8.ofString fileText))]
    (Settings.load files ⟨[]⟩ = .ok settings ∧
      Http.Sample.start.run files ⟨[]⟩ = .error (.users (.conflict "username alice"))) ∧
      ∃ maker flow o, settings.token.maker = .ok maker ∧
        settings.token.flow ⟨maker, fun _ => .nil, {}⟩ = .ok flow ∧
        (flow.login Instant.epoch (.initial users) ⟨"alice", "secret", "", ""⟩).2 = .ok o ∧
        maker.LastsFor Instant.epoch 86400 o.refreshToken o.refreshClaims := by
  intro files
  have hload : Settings.load files ⟨[]⟩ = .ok settings := toOption_eq_some_iff.1 (by decide +kernel)
  have hvalid : settings.validate = .ok () := by decide
  obtain ⟨maker, hmaker, htokens, hstarts⟩ := Settings.starts_of_validate hvalid
  refine ⟨⟨hload, ?_⟩, ?_⟩
  · have hrepeated : FirstRepeated (settings.users.map (·.username)) "alice" :=
      ⟨["alice"], [], rfl, List.nodup_singleton _, List.mem_singleton_self _⟩
    exact (hstarts Http.Sample.start files ⟨[]⟩ hload _).2 (Or.inl ⟨"alice", hrepeated, rfl⟩)
  · obtain ⟨flow, hflow, hbackend, hissued⟩ := htokens ⟨maker, fun _ => .nil, {}⟩ rfl
    let quarter : Duration := { nanoseconds := 900000000000 }
    let day : Duration := { nanoseconds := 86400000000000 }
    let terms : Auth.Flow :=
      { maker, ids := fun _ => .nil, faults := {}, accessLifetime := quarter, refreshLifetime := day }
    obtain rfl : terms = flow := Except.ok.inj (Eq.trans rfl hflow)
    have hquarter : Instant.epoch.floor.add? quarter = some { seconds := 900, nanos := 0 } := by decide
    have hday : Instant.epoch.floor.add? day = some { seconds := 86400, nanos := 0 } := by decide
    obtain ⟨s, o, hlogin, -⟩ := Auth.Flow.login_succeeds terms Instant.epoch (.initial users)
      ⟨"alice", "secret", "", ""⟩ rfl rfl verify_request hquarter hday rfl
    obtain ⟨hlogins, -⟩ := hissued Instant.epoch (.initial users) (by decide) (by decide)
    have ho := congrArg Prod.snd hlogin
    exact ⟨maker, _, o, hmaker, hflow, ho, (hlogins _ o ho).2⟩

end Startup.Sample

end Gatehouse
