import Mathlib
import Gatehouse.Proofs.Encoding.Base64
import Gatehouse.Proofs.Outcome
import Gatehouse.Proofs.Text.Blank
import Gatehouse.Proofs.Time.Instant
import Gatehouse.Proofs.Token.Header
import Gatehouse.Token.Maker

/-!
# Which tokens are accepted

`TokenMaker.Authentic` says what a token of a maker with some claims is, part by part. The claims that verification
starts from are those of the authentic tokens (`authentic?_eq_some_iff`), and its answer is read off the claims and the
clock alone (`Authentic.verify`): no other text is ever expired, let alone accepted.
-/

namespace Gatehouse

namespace Claims

/-- The JSON objects that claims are read from begin with a brace and hold every claim that is needed. -/
theorem ofObject?_eq_some_iff {bytes : List UInt8} {c : Claims} :
    ofObject? bytes = some c ↔ (∃ rest, Json.skipSpaces bytes = 0x7B :: rest) ∧ ofBytes bytes = .ok c := by
  unfold ofObject?
  cases hs : Json.skipSpaces bytes with
  | nil => simp
  | cons b rest =>
    by_cases hb : b = 0x7B
    · subst hb
      cases hread : ofBytes bytes <;> simp
    · simp [hb]

end Claims

namespace TokenMaker

open Encoding (Base64)
open Json (Value)

/-! ## Authentic tokens -/

/-- What three texts are when, divided by dots, they are a token of a maker with some claims. -/
structure Parts (maker : TokenMaker) (header payload code : List Char) (c : Claims) : Prop where
  /-- The last part is the authentication code of the first two under the maker's key. -/
  code_eq : code = Base64.urlSafe.encode
    (Digest.hmacSha256 maker.key (Text.Utf8.encode (header ++ '.' :: payload)))
  /-- The first part holds a header for HS256. -/
  header_eq : ∃ bytes members, header = Base64.urlSafe.encode bytes ∧
    Value.ofBytes bytes = .ok (.object members) ∧ TokenHeader.Hs256 members
  /-- The second part holds a JSON object with the claims. -/
  payload_eq : ∃ bytes, payload = Base64.urlSafe.encode bytes ∧
    (∃ rest, Json.skipSpaces bytes = 0x7B :: rest) ∧ Claims.ofBytes bytes = .ok c
  /-- The claims are for the maker's audience. -/
  audience_eq : c.audience = maker.audience
  /-- The claims are the maker's own. -/
  issuer_eq : c.issuer = maker.issuer
  /-- The token expires in 1970 or later. -/
  expireAt_nonneg : 0 ≤ c.expireAt.seconds
  /-- The token holds from some time in 1970 or later. -/
  notBefore_nonneg : 0 ≤ c.notBefore.seconds

/-- A text is a token of the maker with some claims: three parts divided by two dots. -/
def Authentic (maker : TokenMaker) (token : String) (c : Claims) : Prop :=
  ∃ header payload code, Text.splitOn '.' token.toList = [header, payload, code] ∧ maker.Parts header payload code c

/-- A text is cut at the dot after which there is none. -/
theorem cutLast?_eq_some_iff {s before after : List Char} :
    cutLast? s = some (before, after) ↔ s = before ++ '.' :: after ∧ '.' ∉ after := by
  have hcut (x y : List Char) : Text.cutAt? '.' s.reverse = some (x, y) ↔
      s = y.reverse ++ '.' :: x.reverse ∧ '.' ∉ x.reverse := by
    rw [Text.cutAt?_eq_some_iff, ← List.reverse_inj, List.reverse_reverse, List.mem_reverse]
    simp
  simp only [cutLast?, Option.map_eq_some_iff, Prod.exists, hcut, Prod.mk.injEq]
  constructor
  · rintro ⟨x, y, h, rfl, rfl⟩
    exact h
  · intro h
    exact ⟨after.reverse, before.reverse, by simpa using h, by simp, by simp⟩

/-- The claims that a maker accepts are those with its audience and issuer and with times from 1970 on. -/
theorem accepts_iff {maker : TokenMaker} {c : Claims} :
    maker.accepts c = true ↔ c.audience = maker.audience ∧ c.issuer = maker.issuer ∧ 0 ≤ c.expireAt.seconds ∧
      0 ≤ c.notBefore.seconds := by
  simp only [accepts, Bool.and_eq_true, decide_eq_true_eq, and_assoc]

/-- The claims of a text are found when it is cut at its last two dots and every part is decoded and checked. -/
theorem authentic?_eq_some_iff_cut {maker : TokenMaker} {token : List Char} {c : Claims} :
    maker.authentic? token = some c ↔
      ∃ header payload code, token = header ++ '.' :: (payload ++ '.' :: code) ∧ '.' ∉ payload ∧ '.' ∉ code ∧
        ∃ headerBytes codeBytes payloadBytes, Base64.urlSafe.decode? header = some headerBytes ∧
          Base64.urlSafe.decode? code = some codeBytes ∧ Base64.urlSafe.decode? payload = some payloadBytes ∧
          TokenHeader.acceptsBytes headerBytes = true ∧
          codeBytes = Digest.hmacSha256 maker.key (Text.Utf8.encode (header ++ '.' :: payload)) ∧
          Claims.ofObject? payloadBytes = some c ∧ maker.accepts c = true := by
  unfold authentic?
  simp only [Option.bind_eq_bind, Option.bind_eq_some_iff, Prod.exists, cutLast?_eq_some_iff]
  constructor
  · rintro ⟨signed, code, ⟨rfl, hcode⟩, header, payload, ⟨rfl, hpayload⟩, hb, hh, cb, hc, pb, hp, h⟩
    refine ⟨header, payload, code, by simp, hpayload, hcode, hb, cb, pb, hh, hc, hp, ?_⟩
    split at h
    · next hcheck =>
      rw [Bool.and_eq_true, decide_eq_true_eq] at hcheck
      split at h
      · next c' hclaims =>
        split at h
        · next haccepts =>
          obtain rfl := Option.some.inj h
          exact ⟨hcheck.1, hcheck.2, hclaims, haccepts⟩
        · cases h
      · cases h
    · cases h
  · rintro ⟨header, payload, code, rfl, hpayload, hcode, hb, cb, pb, hh, hc, hp, h1, h2, h3, h4⟩
    refine ⟨header ++ '.' :: payload, code, ⟨by simp, hcode⟩, header, payload, ⟨rfl, hpayload⟩, hb, hh, cb, hc, pb, hp,
      ?_⟩
    simp only [h1, h2, h3, h4, decide_true, Bool.and_self, if_true]

/-- The claims that verification starts from are those of the authentic tokens. -/
theorem authentic?_eq_some_iff {maker : TokenMaker} {token : String} {c : Claims} :
    maker.authentic? token.toList = some c ↔ maker.Authentic token c := by
  simp only [authentic?_eq_some_iff_cut, Base64.decode?_eq_some_iff Base64.urlSafe_lawful, Authentic,
    Text.splitOn_eq_three_iff, TokenHeader.acceptsBytes_iff, Claims.ofObject?_eq_some_iff, accepts_iff]
  constructor
  · rintro ⟨header, payload, code, htoken, hpayload, hcode, hb, cb, pb, hh, hc, hp, ⟨members, hmembers⟩, rfl, hclaims,
      ha, hi, he, hn⟩
    have hheader : '.' ∉ header := hh ▸ Base64.dot_not_mem_encode_urlSafe hb
    exact ⟨header, payload, code, ⟨htoken, hheader, hpayload, hcode⟩, hc, ⟨hb, members, hh, hmembers⟩,
      ⟨pb, hp, hclaims⟩, ha, hi, he, hn⟩
  · rintro ⟨header, payload, code, ⟨htoken, -, hpayload, hcode⟩, hparts⟩
    obtain ⟨hb, members, hh, hmembers⟩ := hparts.header_eq
    obtain ⟨pb, hp, hclaims⟩ := hparts.payload_eq
    exact ⟨header, payload, code, htoken, hpayload, hcode, hb, _, pb, hh, hparts.code_eq, hp, ⟨members, hmembers⟩, rfl,
      hclaims, hparts.audience_eq, hparts.issuer_eq, hparts.expireAt_nonneg, hparts.notBefore_nonneg⟩

/-- A token has its claims alone. -/
theorem Authentic.unique {maker : TokenMaker} {token : String} {c c' : Claims} (h : maker.Authentic token c)
    (h' : maker.Authentic token c') : c = c' := by
  rw [← authentic?_eq_some_iff] at h h'
  exact Option.some.inj (h.symm.trans h')

/-! ## Verification -/

/-- The clock answers an authentic token: expired from its expiry on, invalid before its time, and else its claims. -/
theorem Authentic.verify {maker : TokenMaker} {token : String} {c : Claims} (h : maker.Authentic token c)
    (now : Instant) :
    maker.verify now token =
      if c.expireAt ≤ now then .error .expired else if now < c.notBefore then .error .invalid else .ok c := by
  rw [TokenMaker.verify, authentic?_eq_some_iff.2 h]
  unfold Claims.validAt
  dsimp only
  split_ifs <;> rfl

/-- Any other text is invalid at all times. -/
theorem verify_of_not_authentic {maker : TokenMaker} {token : String} (h : ∀ c, ¬maker.Authentic token c)
    (now : Instant) : maker.verify now token = .error .invalid := by
  have hnone : maker.authentic? token.toList = none := by
    rw [Option.eq_none_iff_forall_not_mem]
    intro c hc
    exact h c (authentic?_eq_some_iff.1 hc)
  rw [TokenMaker.verify, hnone]

/-- A text whose claims verification answers is authentic with these claims. -/
theorem authentic_of_verify {maker : TokenMaker} {now : Instant} {token : String} {c : Claims}
    (h : maker.verify now token = .ok c) : maker.Authentic token c := by
  rw [← authentic?_eq_some_iff]
  unfold TokenMaker.verify at h
  split at h
  · cases h
  · next c' hc =>
    rw [Outcome.map_eq_ok_iff] at h
    obtain ⟨-, -, rfl⟩ := h
    exact hc

/-- Verification accepts the authentic tokens that have begun to hold and have not expired, with their claims; those
that have expired are the only ones it calls expired; and it answers that a token is invalid when it is not authentic or
does not hold yet. -/
theorem verify_eq_iff (maker : TokenMaker) (now : Instant) (token : String) :
    (∀ c, maker.verify now token = .ok c ↔ maker.Authentic token c ∧ now < c.expireAt ∧ c.notBefore ≤ now) ∧
      (maker.verify now token = .error .expired ↔ ∃ c, maker.Authentic token c ∧ c.expireAt ≤ now) ∧
      (maker.verify now token = .error .invalid ↔
        (∀ c, ¬maker.Authentic token c) ∨
          ∃ c, maker.Authentic token c ∧ now < c.expireAt ∧ now < c.notBefore) := by
  by_cases hex : ∃ c, maker.Authentic token c
  · obtain ⟨c, hc⟩ := hex
    have hone (p : Claims → Prop) : (∃ c', maker.Authentic token c' ∧ p c') ↔ p c := by
      constructor
      · rintro ⟨c', hc', hp⟩
        rwa [hc.unique hc']
      · exact fun hp => ⟨c, hc, hp⟩
    have hsome : ¬∀ c, ¬maker.Authentic token c := fun h => h c hc
    have heq (c' : Claims) (q : Prop) : maker.Authentic token c' ∧ q ↔ c = c' ∧ q :=
      and_congr_left fun _ => ⟨hc.unique, fun e => e ▸ hc⟩
    rw [hone, hone, hc.verify now]
    simp only [hsome, false_or, heq]
    split_ifs with he hn
    · simp [he, not_lt.2 he]
    · simp [hn, not_le.1 he, he]
    · simp only [he, hn, and_false, Except.ok.injEq, and_true]
      intro c'
      constructor
      · rintro rfl
        exact ⟨rfl, not_le.1 he, not_lt.1 hn⟩
      · exact fun h => h.1
  · rw [not_exists] at hex
    rw [verify_of_not_authentic hex now]
    simp [hex]

end TokenMaker

end Gatehouse
