import Mathlib
import Gatehouse.Proofs.Outcome
import Gatehouse.Proofs.Token.Members
import Gatehouse.Proofs.Token.Verify

/-!
# Tokens, made and verified

A token that is made for some claims is authentic, with the claims rounded down to whole seconds, for every maker that
has the same key and takes these claims for its own (`authentic_sign`). So what is issued verifies as what was issued
from its time until its expiry, whatever the roles, the issuer and the audience are.
-/

namespace Gatehouse.TokenMaker

open Encoding (Base64)

/-! ## Making -/

/-- What is issued is the signed text of claims for the user that hold from the start of this second on. -/
theorem issue_eq_ok_iff {maker : TokenMaker} {now : Instant} {id userId : Uuid} {roles : List Role}
    {lifetime : Duration} {token : String} {c : Claims} :
    maker.issue now id userId roles lifetime = .ok (token, c) ↔
      token = maker.sign c ∧ ∃ expireAt, now.floor.add? lifetime = some expireAt ∧
        c = { id, userId, issuedAt := now.floor, expireAt, notBefore := now.floor, audience := maker.audience,
              issuer := maker.issuer, subject := Claims.subjectText, roles } := by
  rw [issue, Outcome.map_eq_ok_iff]
  unfold claims
  cases now.floor.add? lifetime with
  | none => simp
  | some expireAt =>
    simp only [Except.ok.injEq, exists_eq_left', Prod.mk.injEq, Option.some.injEq]
    constructor
    · rintro ⟨rfl, rfl⟩
      exact ⟨rfl, rfl⟩
    · rintro ⟨rfl, rfl⟩
      exact ⟨rfl, rfl⟩

/-- The claims of what is issued say what was asked for, and hold from the start of this second on. -/
theorem claims_of_issue {maker : TokenMaker} {now : Instant} {id userId : Uuid} {roles : List Role}
    {lifetime : Duration} {token : String} {c : Claims}
    (h : maker.issue now id userId roles lifetime = .ok (token, c)) :
    c.id = id ∧ c.userId = userId ∧ c.roles = roles ∧ c.notBefore = now.floor := by
  obtain ⟨-, expireAt, -, rfl⟩ := issue_eq_ok_iff.1 h
  exact ⟨rfl, rfl, rfl, rfl⟩

/-- The header of every token that is made is accepted. -/
theorem acceptsBytes_made : TokenHeader.acceptsBytes (Text.Utf8.encode TokenHeader.made) = true := by
  decide +kernel

/-! ## Verifying what was made -/

/-- A maker with the same key finds in a token that was made for some claims these claims, rounded down to whole
seconds, unless they are not its own. -/
theorem authentic?_sign {maker other : TokenMaker} (hkey : other.key = maker.key) (c : Claims) :
    other.authentic? (maker.sign c).toList = if other.accepts c.floor then some c.floor else none := by
  have hdot := Base64.dot_not_mem_encode_urlSafe
  have hback := Base64.decode?_encode Base64.urlSafe_lawful
  have hcode : cutLast? (signedPart c ++ '.' :: maker.signature (signedPart c)) =
      some (signedPart c, maker.signature (signedPart c)) := cutLast?_eq_some_iff.2 ⟨rfl, hdot _⟩
  have hpart : cutLast? (signedPart c) = some (Base64.urlSafe.encode (Text.Utf8.encode TokenHeader.made),
      Base64.urlSafe.encode (Text.Utf8.encode c.json.write)) := cutLast?_eq_some_iff.2 ⟨rfl, hdot _⟩
  unfold authentic?
  rw [sign, String.toList_ofList, hcode]
  simp only [Option.bind_eq_bind, Option.bind_some, hpart, signature, hback, acceptsBytes_made, hkey,
    Claims.ofObject?_write, decide_true, Bool.and_self, if_true]

/-- A maker with the same key, issuer and audience takes a token that was made for some claims of the maker's own as
authentic, with these claims rounded down. -/
theorem authentic_sign {maker other : TokenMaker} (hkey : other.key = maker.key) {c : Claims}
    (h : other.accepts c.floor = true) : other.Authentic (maker.sign c) c.floor := by
  rw [← authentic?_eq_some_iff, authentic?_sign hkey, if_pos h]

/-- A maker with the same key takes no token for authentic that was made for claims which are not its own. -/
theorem not_authentic_sign {maker other : TokenMaker} (hkey : other.key = maker.key) {c : Claims}
    (h : ¬other.accepts c.floor = true) (c' : Claims) : ¬other.Authentic (maker.sign c) c' := by
  rw [← authentic?_eq_some_iff, authentic?_sign hkey, if_neg h]
  intro hnone
  cases hnone

/-- The claims of a token that is issued for a whole number of seconds are in whole seconds. -/
theorem floor_of_issue {maker : TokenMaker} {now : Instant} {id userId : Uuid} {roles : List Role}
    {lifetime : Duration} {token : String} {c : Claims}
    (h : maker.issue now id userId roles lifetime = .ok (token, c))
    (hwhole : lifetime.nanoseconds % 1000000000 = 0) : c.floor = c := by
  obtain ⟨-, expireAt, hadd, rfl⟩ := issue_eq_ok_iff.1 h
  simp only [Claims.floor, Instant.floor_floor, Instant.floor_of_add? hadd hwhole]

/-- A token that is issued at the epoch or later, for a whole number of seconds and no time back, is authentic with the
claims that it was issued for. -/
theorem authentic_of_issue {maker : TokenMaker} {now : Instant} {id userId : Uuid} {roles : List Role}
    {lifetime : Duration} {token : String} {c : Claims}
    (h : maker.issue now id userId roles lifetime = .ok (token, c)) (hnow : Instant.epoch ≤ now)
    (hforward : 0 ≤ lifetime.nanoseconds) (hwhole : lifetime.nanoseconds % 1000000000 = 0) :
    maker.Authentic token c := by
  have hfloor := floor_of_issue h hwhole
  obtain ⟨rfl, expireAt, hadd, rfl⟩ := issue_eq_ok_iff.1 h
  have hissued : 0 ≤ now.seconds := Instant.epoch_le_iff.1 hnow
  have hexpire : 0 ≤ expireAt.seconds := by
    obtain ⟨hsum, hnanos⟩ := Instant.add?_eq_some_iff.1 hadd
    simp only [Instant.nanoseconds, Instant.floor_seconds, Instant.floor_nanos] at hsum
    omega
  rw [← authentic?_eq_some_iff, authentic?_sign rfl, hfloor, if_pos]
  exact accepts_iff.2 ⟨rfl, rfl, hexpire, hissued⟩

/-- From its time on, a token that is issued at the epoch or later for a whole number of seconds, forward or back,
verifies until its expiry with the claims that it was issued for, and then no more. -/
theorem verify_of_issue {maker : TokenMaker} {now : Instant} {id userId : Uuid} {roles : List Role}
    {lifetime : Duration} {token : String} {c : Claims}
    (h : maker.issue now id userId roles lifetime = .ok (token, c)) (hnow : Instant.epoch ≤ now)
    (hwhole : lifetime.nanoseconds % 1000000000 = 0) {v : Instant} (hv : now ≤ v) :
    (v < c.expireAt → maker.verify v token = .ok c) ∧ (c.expireAt ≤ v → ∃ e, maker.verify v token = .error e) := by
  have hfloor := floor_of_issue h hwhole
  obtain ⟨rfl, expireAt, hadd, heq⟩ := issue_eq_ok_iff.1 h
  have hsign : maker.authentic? (maker.sign c).toList = if maker.accepts c.floor then some c.floor else none :=
    authentic?_sign rfl c
  rw [hfloor] at hsign
  constructor
  · intro hlive
    have hissued : 0 ≤ now.seconds := Instant.epoch_le_iff.1 hnow
    have haccepts : maker.accepts c = true := by
      have hexpire : Instant.epoch ≤ c.expireAt := hnow.trans (hv.trans hlive.le)
      refine accepts_iff.2 ⟨by rw [heq], by rw [heq], Instant.epoch_le_iff.1 hexpire, ?_⟩
      rw [heq]
      exact hissued
    rw [if_pos haccepts] at hsign
    have hbegun : ¬v < c.notBefore := by
      rw [heq]
      exact not_lt.2 ((Instant.floor_le now).trans hv)
    rw [(authentic?_eq_some_iff.1 hsign).verify v, if_neg (not_le.2 hlive), if_neg hbegun]
  · intro hexpired
    -- It may not even be authentic, when it expires before 1970.
    cases hverify : maker.verify v (maker.sign c) with
    | error e => exact ⟨e, rfl⟩
    | ok c' =>
      have hauthentic := authentic_of_verify hverify
      rw [authentic?_eq_some_iff.2 hauthentic] at hsign
      split_ifs at hsign
      obtain rfl := Option.some.inj hsign
      rw [hauthentic.verify v, if_pos hexpired] at hverify
      cases hverify

/-- What was issued, at the epoch or later, is for the user and the roles asked for, and verifies for a maker with the
same key, issuer and audience: it is expired from the whole second of its expiry on, invalid before its time, and
otherwise answered with the issued claims, their expiry rounded down, which is no change when the lifetime is a whole
number of seconds. For a maker with the same key but another issuer or audience it is always invalid. -/
theorem verify_issue {maker other : TokenMaker} {now : Instant} {id userId : Uuid} {roles : List Role}
    {lifetime : Duration} {token : String} {c : Claims}
    (h : maker.issue now id userId roles lifetime = .ok (token, c)) (hissued : Instant.epoch ≤ c.issuedAt)
    (hexpire : Instant.epoch ≤ c.expireAt) (hkey : other.key = maker.key) :
    (c.userId = userId ∧ c.roles = roles) ∧
      (other.issuer = maker.issuer → other.audience = maker.audience → ∀ v, other.verify v token =
        if c.expireAt.floor ≤ v then .error .expired
        else if v < c.issuedAt then .error .invalid
        else .ok { c with expireAt := c.expireAt.floor }) ∧
      (lifetime.nanoseconds % 1000000000 = 0 → c.expireAt.floor = c.expireAt) ∧
      (other.issuer ≠ maker.issuer ∨ other.audience ≠ maker.audience →
        ∀ v, other.verify v token = .error .invalid) := by
  obtain ⟨rfl, expireAt, hadd, rfl⟩ := issue_eq_ok_iff.1 h
  have hissued : 0 ≤ now.floor.seconds := Instant.epoch_le_iff.1 hissued
  have hexpire : 0 ≤ expireAt.seconds := Instant.epoch_le_iff.1 hexpire
  refine ⟨⟨rfl, rfl⟩, fun hiss haud v => ?_, Instant.floor_of_add? hadd, fun hother v => ?_⟩
  · refine (authentic_sign hkey ?_).verify v
    exact accepts_iff.2 ⟨haud.symm, hiss.symm, hexpire, hissued⟩
  · refine verify_of_not_authentic (not_authentic_sign hkey ?_) v
    intro haccepts
    obtain ⟨haud, hiss, -⟩ := accepts_iff.1 haccepts
    rcases hother with hne | hne
    · exact hne hiss.symm
    · exact hne haud.symm

/-- A token for one and a half seconds is expired after one, and for another audience it is invalid from the start. -/
theorem verify_issue_of_short_lifetime :
    let maker : TokenMaker := ⟨List.replicate 32 0x2A, "gate", "players", rfl⟩
    ∃ token c, maker.issue Instant.epoch .nil .nil [Role.user] { nanoseconds := 1500000000 } = .ok (token, c) ∧
      maker.verify { seconds := 1, nanos := 0 } token = .error .expired ∧
      { maker with audience := "strangers" }.verify Instant.epoch token = .error .invalid := by
  intro maker
  let lifetime : Duration := { nanoseconds := 1500000000 }
  let expireAt : Instant := { seconds := 1, nanos := 500000000 }
  let c : Claims :=
    { id := .nil, userId := .nil, issuedAt := Instant.epoch, expireAt, notBefore := Instant.epoch,
      audience := "players", issuer := "gate", subject := Claims.subjectText, roles := [Role.user] }
  have hissue : maker.issue Instant.epoch .nil .nil [Role.user] lifetime = .ok (maker.sign c, c) :=
    issue_eq_ok_iff.2 ⟨rfl, expireAt, by decide, rfl⟩
  have hverify (other : TokenMaker) (hkey : other.key = maker.key) :=
    verify_issue hissue (by decide) (by decide) hkey
  have hsame := hverify maker rfl
  have hother := hverify { maker with audience := "strangers" } rfl
  refine ⟨maker.sign c, c, hissue, ?_, hother.2.2.2 (Or.inr (by decide)) Instant.epoch⟩
  rw [hsame.2.1 rfl rfl, if_pos (by decide)]

end Gatehouse.TokenMaker
