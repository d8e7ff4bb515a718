import Mathlib
import Gatehouse.Proofs.Settings.Lifetime
import Gatehouse.Proofs.Token.RoundTrip

/-!
# How long tokens can last

A token is issued for every lifetime, forward or back, that ends at an instant when it begins with the second of the
clock, and for no other, and what is issued lasts for exactly that lifetime; in the same way a flow is made from every
number of seconds that is a duration, and from no other (`TokenMaker.issue_eq_error_iff_not_covers`). A token that is
issued for no time at all, or for time back, never verifies. From its issue on it is expired, unless its expiry lies
before 1970: such a token is no token of its maker, and invalid (`TokenMaker.verify_issue_of_no_time`).
-/

namespace Gatehouse

open Outcome

/-! ## Ranges -/

/-- A count of nanoseconds since the start of 1970 lies between the start of the first second that has an instant and
the end of the last. -/
def Instant.Covers (n : Int) : Prop := earliest * 1000000000 ≤ n ∧ n < (latest + 1) * 1000000000

/-- There is an instant a duration later exactly when the sum of the two is covered by instants. -/
theorem Instant.exists_add?_iff {t : Instant} {d : Duration} :
    (∃ t', t.add? d = some t') ↔ Covers (t.nanoseconds + d.nanoseconds) := by
  rw [← Option.isSome_iff_exists, isSome_add?_iff, Covers]
  omega

/-- So many seconds are, in milliseconds, a number of 64 bits other than the least. -/
def Duration.HasSeconds (seconds : Int) : Prop :=
  -9223372036854775807 ≤ seconds * 1000 ∧ seconds * 1000 ≤ 9223372036854775807

/-- There is a duration of so many seconds exactly when there is one of so many milliseconds. -/
theorem Duration.exists_ofSeconds?_iff {seconds : Int} : (∃ d, ofSeconds? seconds = some d) ↔ HasSeconds seconds := by
  have hbounds : -limit ≤ seconds * 1000000000 ∧ seconds * 1000000000 ≤ limit ↔ HasSeconds seconds := by
    unfold limit HasSeconds
    omega
  unfold ofSeconds?
  rw [← hbounds]
  constructor
  · rintro ⟨d, hd⟩
    split at hd
    · next h => exact h
    · cases hd
  · intro h
    exact ⟨_, dif_pos h⟩

/-! ## Flows -/

namespace Auth.Flow

/-- The error that a setting is no number of seconds that a duration has. -/
def rangeError (name : String) (seconds : Int) : ServiceError :=
  .configuration (name ++ " is out of range: " ++ toString seconds)

/-- A setting is a lifetime when there is a duration of so many seconds, and else out of range. -/
theorem lifetime_cases (name : String) (seconds : Int) :
    (Duration.HasSeconds seconds ∧ ∃ d, lifetime name seconds = .ok d) ∨
      (¬Duration.HasSeconds seconds ∧ lifetime name seconds = .error (rangeError name seconds)) := by
  unfold lifetime
  rw [← Duration.exists_ofSeconds?_iff]
  cases h : Duration.ofSeconds? seconds with
  | none => exact Or.inr ⟨by simp, rfl⟩
  | some d => exact Or.inl ⟨⟨d, rfl⟩, d, rfl⟩

/-- A flow is made when both settings are lifetimes; else the first that is none is reported. -/
theorem ofSeconds_cases (backend : Backend) (access refresh : Int) :
    (Duration.HasSeconds access ∧ Duration.HasSeconds refresh ∧ ∃ flow, ofSeconds backend access refresh = .ok flow) ∨
      (¬Duration.HasSeconds access ∧
        ofSeconds backend access refresh = .error (rangeError "access_token_duration_secs" access)) ∨
      (Duration.HasSeconds access ∧ ¬Duration.HasSeconds refresh ∧
        ofSeconds backend access refresh = .error (rangeError "refresh_token_duration_secs" refresh)) := by
  unfold ofSeconds
  rcases lifetime_cases "access_token_duration_secs" access with ⟨haccess, a, ha⟩ | ⟨haccess, ha⟩
  · rcases lifetime_cases "refresh_token_duration_secs" refresh with ⟨hrefresh, r, hr⟩ | ⟨hrefresh, hr⟩
    · rw [ha, hr]
      exact Or.inl ⟨haccess, hrefresh, _, rfl⟩
    · rw [ha, hr]
      exact Or.inr (Or.inr ⟨haccess, hrefresh, rfl⟩)
  · rw [ha]
    exact Or.inr (Or.inl ⟨haccess, rfl⟩)

/-- A flow is made from exactly those settings that are durations, and its tokens last as long as they say. -/
theorem exists_ofSeconds_iff {backend : Backend} {access refresh : Int} :
    (∃ flow, ofSeconds backend access refresh = .ok flow ∧ flow.toBackend = backend ∧
      flow.accessLifetime.nanoseconds = access * 1000000000 ∧
      flow.refreshLifetime.nanoseconds = refresh * 1000000000) ↔
      Duration.HasSeconds access ∧ Duration.HasSeconds refresh := by
  rcases ofSeconds_cases backend access refresh with ⟨ha, hr, flow, hflow⟩ | ⟨ha, herror⟩ | ⟨-, hr, herror⟩
  · exact ⟨fun _ => ⟨ha, hr⟩, fun _ => ⟨flow, hflow, ofSeconds_ok hflow⟩⟩
  · simp [herror, ha]
  · simp [herror, hr]

/-- A flow that is not made is refused for the first setting that is no duration. -/
theorem ofSeconds_eq_error_iff {backend : Backend} {access refresh : Int} {e : ServiceError} :
    ofSeconds backend access refresh = .error e ↔
      (¬Duration.HasSeconds access ∧ e = rangeError "access_token_duration_secs" access) ∨
        (Duration.HasSeconds access ∧ ¬Duration.HasSeconds refresh ∧
          e = rangeError "refresh_token_duration_secs" refresh) := by
  rcases ofSeconds_cases backend access refresh with ⟨ha, hr, flow, hflow⟩ | ⟨ha, herror⟩ | ⟨ha, hr, herror⟩
  · simp [hflow, ha, hr]
  · simp [herror, ha, eq_comm]
  · simp [herror, ha, hr, eq_comm]

end Auth.Flow

/-! ## Tokens -/

namespace TokenMaker

/-- What the claims of a token say that a maker issues at a reading of the clock. -/
structure Issues (maker : TokenMaker) (now : Instant) (id userId : Uuid) (roles : List Role) (lifetime : Duration)
    (c : Claims) : Prop where
  /-- The token lasts as long as was asked for, to the nanosecond. -/
  lifetime_eq : c.expireAt.nanosecondsSince c.issuedAt = lifetime.nanoseconds
  notBefore_eq : c.notBefore = c.issuedAt
  /-- It is issued at the start of the second of the clock. -/
  issuedAt_eq : c.issuedAt = now.floor
  /-- It is not issued after the clock's reading. -/
  issuedAt_le : c.issuedAt ≤ now
  /-- It is issued less than a second before the clock's reading; clocks do not read points inside leap seconds. -/
  lt_second : now.nanos < 1000000000 → now.nanosecondsSince c.issuedAt < 1000000000
  audience_eq : c.audience = maker.audience
  issuer_eq : c.issuer = maker.issuer
  id_eq : c.id = id
  userId_eq : c.userId = userId
  roles_eq : c.roles = roles

/-- The claims of what is issued say what was asked for. -/
theorem issues_of_issue {maker : TokenMaker} {now : Instant} {id userId : Uuid} {roles : List Role}
    {lifetime : Duration} {token : String} {c : Claims}
    (h : maker.issue now id userId roles lifetime = .ok (token, c)) :
    maker.Issues now id userId roles lifetime c := by
  obtain ⟨-, expireAt, hadd, rfl⟩ := issue_eq_ok_iff.1 h
  obtain ⟨hsum, -⟩ := Instant.add?_eq_some_iff.1 hadd
  have hlasts : expireAt.nanosecondsSince now.floor = lifetime.nanoseconds := by
    rw [Instant.nanosecondsSince, hsum]
    ring
  have hsecond (hnow : now.nanos < 1000000000) : now.nanosecondsSince now.floor < 1000000000 := by
    simp only [Instant.nanosecondsSince, Instant.nanoseconds, Instant.floor_seconds, Instant.floor_nanos]
    omega
  exact ⟨hlasts, rfl, rfl, Instant.floor_le now, hsecond, rfl, rfl, rfl, rfl, rfl⟩

/-- A token is issued when its expiry is an instant, and else its lifetime is refused. -/
theorem issue_cases (maker : TokenMaker) (now : Instant) (id userId : Uuid) (roles : List Role)
    (lifetime : Duration) :
    (Instant.Covers (now.floor.nanoseconds + lifetime.nanoseconds) ∧
      ∃ token c, maker.issue now id userId roles lifetime = .ok (token, c)) ∨
      (¬Instant.Covers (now.floor.nanoseconds + lifetime.nanoseconds) ∧
        maker.issue now id userId roles lifetime = .error .duration) := by
  rw [← Instant.exists_add?_iff]
  cases hadd : now.floor.add? lifetime with
  | none =>
    refine Or.inr ⟨by simp, ?_⟩
    rw [issue, claims, hadd]
    rfl
  | some expireAt => exact Or.inl ⟨⟨expireAt, rfl⟩, _, _, issue_eq_ok_iff.2 ⟨rfl, expireAt, hadd, rfl⟩⟩

/-- A lifetime is refused exactly when the second of the clock and the lifetime together lie outside the range of
instants; otherwise a token is issued whose claims say what was asked for. In the same way a flow is made from exactly
those numbers of seconds that are durations, and otherwise the first that is none is reported. -/
theorem issue_eq_error_iff_not_covers (maker : TokenMaker) (now : Instant) (id userId : Uuid) (roles : List Role)
    (lifetime : Duration) (backend : Auth.Backend) (access refresh : Int) :
    (maker.issue now id userId roles lifetime = .error .duration ↔
        ¬Instant.Covers (now.floor.nanoseconds + lifetime.nanoseconds)) ∧
      ((∃ token c, maker.issue now id userId roles lifetime = .ok (token, c) ∧
          maker.Issues now id userId roles lifetime c) ↔
        Instant.Covers (now.floor.nanoseconds + lifetime.nanoseconds)) ∧
      ((∃ flow, Auth.Flow.ofSeconds backend access refresh = .ok flow ∧ flow.toBackend = backend ∧
          flow.accessLifetime.nanoseconds = access * 1000000000 ∧
          flow.refreshLifetime.nanoseconds = refresh * 1000000000) ↔
        Duration.HasSeconds access ∧ Duration.HasSeconds refresh) ∧
      ∀ e, Auth.Flow.ofSeconds backend access refresh = .error e ↔
        (¬Duration.HasSeconds access ∧ e = Auth.Flow.rangeError "access_token_duration_secs" access) ∨
          (Duration.HasSeconds access ∧ ¬Duration.HasSeconds refresh ∧
            e = Auth.Flow.rangeError "refresh_token_duration_secs" refresh) := by
  refine ⟨?_, ?_, Auth.Flow.exists_ofSeconds_iff, fun e => Auth.Flow.ofSeconds_eq_error_iff⟩
  · rcases maker.issue_cases now id userId roles lifetime with ⟨hcovers, token, c, hissue⟩ | ⟨hcovers, hissue⟩
    · simp [hissue, hcovers]
    · simp [hissue, hcovers]
  · rcases maker.issue_cases now id userId roles lifetime with ⟨hcovers, token, c, hissue⟩ | ⟨hcovers, hissue⟩
    · exact ⟨fun _ => hcovers, fun _ => ⟨token, c, hissue, issues_of_issue hissue⟩⟩
    · simp [hissue, hcovers]

/-! ## Tokens for no time -/

/-- A token that was issued for no time, or for time back, never verifies from its issue on. It is expired when its
expiry does not lie before 1970; otherwise its maker does not take it for its own, and it is invalid. -/
theorem verify_issue_of_no_time {maker : TokenMaker} {now : Instant} {id userId : Uuid} {roles : List Role}
    {lifetime : Duration} {token : String} {c : Claims}
    (h : maker.issue now id userId roles lifetime = .ok (token, c)) (hback : lifetime.nanoseconds ≤ 0) {v : Instant}
    (hv : now ≤ v) :
    maker.verify v token =
      if 0 ≤ now.floor.nanoseconds + lifetime.nanoseconds then .error .expired else .error .invalid := by
  obtain ⟨rfl, expireAt, hadd, heq⟩ := issue_eq_ok_iff.1 h
  obtain ⟨hsum, hnanos⟩ := Instant.add?_eq_some_iff.1 hadd
  have hexpireAt : c.floor.expireAt = expireAt.floor := by rw [heq]; rfl
  have hnotBefore : c.floor.notBefore.seconds = now.seconds := by rw [heq]; rfl
  -- The expiry is not after the start of the second of issue, in which the token begins to hold.
  have hseconds : expireAt.seconds ≤ now.seconds := by
    simp only [Instant.nanoseconds, Instant.floor_seconds, Instant.floor_nanos] at hsum
    omega
  have hsince : 0 ≤ now.floor.nanoseconds + lifetime.nanoseconds ↔ 0 ≤ expireAt.seconds := by
    rw [← hsum, Instant.nanoseconds]
    omega
  have haccepts : maker.accepts c.floor = true ↔ 0 ≤ expireAt.seconds := by
    rw [accepts_iff, hexpireAt, Instant.floor_seconds, hnotBefore]
    constructor
    · rintro ⟨-, -, hexpire, -⟩
      exact hexpire
    · intro hexpire
      exact ⟨by rw [heq]; rfl, by rw [heq]; rfl, hexpire, by omega⟩
  rw [← hsince] at haccepts
  split_ifs with h1970
  · have hexpired : c.floor.expireAt ≤ v := by
      refine le_trans ?_ hv
      rw [hexpireAt, Instant.le_def, Instant.floor_seconds, Instant.floor_nanos]
      omega
    rw [(authentic_sign rfl (haccepts.2 h1970)).verify v, if_pos hexpired]
  · exact verify_of_not_authentic (not_authentic_sign rfl fun h => h1970 (haccepts.1 h)) v

/-- Ten minutes after the epoch, a token for a minute back is expired and a token for an hour back is invalid. -/
theorem verify_issue_of_hour_back :
    let maker : TokenMaker := ⟨List.replicate 32 0x2A, "gate", "players", rfl⟩
    let now : Instant := { seconds := 600, nanos := 5 }
    (∃ token c, maker.issue now .nil .nil [Role.user] { nanoseconds := -60000000000 } = .ok (token, c) ∧
        maker.verify now token = .error .expired) ∧
      ∃ token c, maker.issue now .nil .nil [Role.user] { nanoseconds := -3600000000000 } = .ok (token, c) ∧
        maker.verify now token = .error .invalid := by
  intro maker now
  have hissue {lifetime : Duration} {expireAt : Instant} (h : now.floor.add? lifetime = some expireAt) :
      ∃ token c, maker.issue now .nil .nil [Role.user] lifetime = .ok (token, c) :=
    ⟨_, _, issue_eq_ok_iff.2 ⟨rfl, expireAt, h, rfl⟩⟩
  have hminute : now.floor.add? { nanoseconds := -60000000000 } = some { seconds := 540, nanos := 0 } := by decide
  have hhour : now.floor.add? { nanoseconds := -3600000000000 } = some { seconds := -3000, nanos := 0 } := by decide
  constructor
  · obtain ⟨token, c, h⟩ := hissue hminute
    refine ⟨token, c, h, ?_⟩
    rw [verify_issue_of_no_time h (by decide) le_rfl, if_pos (by decide)]
  · obtain ⟨token, c, h⟩ := hissue hhour
    refine ⟨token, c, h, ?_⟩
    rw [verify_issue_of_no_time h (by decide) le_rfl, if_neg (by decide)]

end TokenMaker

end Gatehouse
