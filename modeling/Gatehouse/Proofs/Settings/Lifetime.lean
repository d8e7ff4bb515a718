import Mathlib
import Gatehouse.Startup

/-!
# Settings of tokens

What settings that pass their check say of tokens: the key has the size that makers ask for, and tokens last for a whole
number of seconds, one at least (`flow_lifetimes`).
-/

namespace Gatehouse

/-- A duration of so many seconds has that many seconds and no part of one. -/
theorem Duration.nanoseconds_of_ofSeconds? {n : Int} {d : Duration} (h : ofSeconds? n = some d) :
    d.nanoseconds = n * 1000000000 := by
  unfold ofSeconds? at h
  split at h
  · obtain rfl := Option.some.inj h
    rfl
  · cases h

/-- A lifetime is the duration of its seconds. -/
theorem Auth.Flow.nanoseconds_of_lifetime {name : String} {seconds : Int} {d : Duration}
    (h : lifetime name seconds = .ok d) : d.nanoseconds = seconds * 1000000000 := by
  unfold lifetime at h
  split at h
  · next d' hd =>
    obtain rfl := Except.ok.inj h
    exact Duration.nanoseconds_of_ofSeconds? hd
  · cases h

/-- The flow of some lifetimes has its backend as given, and tokens that last for so many seconds. -/
theorem Auth.Flow.ofSeconds_ok {backend : Backend} {access refresh : Int} {flow : Flow}
    (h : ofSeconds backend access refresh = .ok flow) :
    flow.toBackend = backend ∧ flow.accessLifetime.nanoseconds = access * 1000000000 ∧
      flow.refreshLifetime.nanoseconds = refresh * 1000000000 := by
  unfold ofSeconds at h
  split at h
  · cases h
  next accessLifetime haccess =>
  cases hrefresh : lifetime "refresh_token_duration_secs" refresh with
  | error e =>
    rw [hrefresh] at h
    cases h
  | ok refreshLifetime =>
    rw [hrefresh] at h
    obtain rfl := Except.ok.inj h
    exact ⟨rfl, nanoseconds_of_lifetime haccess, nanoseconds_of_lifetime hrefresh⟩

namespace Settings

/-- A number of seconds that a token may last is positive and at most a leap year. -/
theorem isLifetime_iff {seconds : Int} : isLifetime seconds = true ↔ 1 ≤ seconds ∧ seconds ≤ maxSeconds := by
  unfold isLifetime
  rw [Bool.and_eq_true, decide_eq_true_eq, decide_eq_true_eq]

/-- Settings pass their check exactly when the key has its size and both lifetimes are allowed. -/
theorem validate_eq_ok_iff {s : Settings} :
    s.validate = .ok () ↔ s.token.symmetricKey.utf8ByteSize = TokenMaker.keySize ∧
      isLifetime s.token.accessSeconds = true ∧ isLifetime s.token.refreshSeconds = true := by
  unfold validate Token.validate
  split_ifs with h1 h2 h3 <;> simp_all

/-- The tokens of checked settings last for a whole number of seconds, and for one at least. -/
theorem flow_lifetimes {s : Settings} (h : s.validate = .ok ()) {backend : Auth.Backend} {flow : Auth.Flow}
    (hflow : s.token.flow backend = .ok flow) :
    flow.toBackend = backend ∧
      (1000000000 ≤ flow.accessLifetime.nanoseconds ∧ flow.accessLifetime.nanoseconds % 1000000000 = 0) ∧
      (1000000000 ≤ flow.refreshLifetime.nanoseconds ∧ flow.refreshLifetime.nanoseconds % 1000000000 = 0) := by
  obtain ⟨-, haccess, hrefresh⟩ := validate_eq_ok_iff.1 h
  obtain ⟨hbackend, ha, hr⟩ := Auth.Flow.ofSeconds_ok hflow
  have ha1 := (isLifetime_iff.1 haccess).1
  have hr1 := (isLifetime_iff.1 hrefresh).1
  rw [ha, hr]
  exact ⟨hbackend, ⟨by omega, by omega⟩, ⟨by omega, by omega⟩⟩

end Settings

end Gatehouse
