import Mathlib
import Gatehouse.Password.Verify
import Gatehouse.Proofs.Digest.Length
import Gatehouse.Proofs.Encoding.Base64
import Gatehouse.Proofs.Text.Blank
import Gatehouse.Proofs.Text.Utf8

/-!
# Stored passwords

The text that is stored for a password is read back as the hash that it was written for (`ofChars_hash`), so the
password is accepted against it (`verify_hashText`), whatever the password and the salt are.
-/

namespace Gatehouse

namespace HashText

open Encoding (Base64)

/-! ## Base64 inside hash texts -/

/-- The characters of base64 stand for themselves in values, and none of them ends a field. -/
theorem isValueChar_of_mem_encode {c : Char} {bytes : List UInt8} (h : c ∈ Base64.standard.encode bytes) :
    isValueChar c = true ∧ c.toNat < 0x80 ∧ c ≠ '$' := by
  obtain ⟨n, hn, rfl⟩ := Base64.exists_digit_of_mem_encode h
  have all : ∀ n < 64, isValueChar (Base64.standard.digit n) = true ∧ (Base64.standard.digit n).toNat < 0x80 ∧
      Base64.standard.digit n ≠ '$' := by decide
  exact all n hn

/-- A base64 text has one byte for every character. -/
theorem length_utf8_encode (bytes : List UInt8) :
    (Text.Utf8.encode (Base64.standard.encode bytes)).length = (bytes.length * 4 + 2) / 3 := by
  rw [Text.Utf8.length_encode_of_ascii fun c hc => (isValueChar_of_mem_encode hc).2.1, Base64.length_encode]

/-- A base64 text of at most 64 characters is a value. -/
theorem value_encode {bytes : List UInt8} (h : bytes.length ≤ 48) :
    value (Base64.standard.encode bytes) = .ok (Base64.standard.encode bytes) := by
  have hnone : (Base64.standard.encode bytes).find? (!isValueChar ·) = none := by
    rw [List.find?_eq_none]
    intro c hc
    simp [(isValueChar_of_mem_encode hc).1]
  unfold value
  rw [if_neg (by rw [length_utf8_encode]; omega), hnone]

/-- A salt of 3 to 48 bytes is read from its base64 text. -/
theorem readSalt_encode {bytes : List UInt8} (h1 : 3 ≤ bytes.length) (h2 : bytes.length ≤ 48) :
    readSalt (Base64.standard.encode bytes) = .ok (Base64.standard.encode bytes) := by
  unfold readSalt
  dsimp only
  rw [length_utf8_encode, if_neg (by omega), if_neg (by omega), value_encode h2]
  rfl

/-- A digest of 10 to 64 bytes is read from its base64 text. -/
theorem readDigest_encode {bytes : List UInt8} (h1 : 10 ≤ bytes.length) (h2 : bytes.length ≤ 64) :
    readDigest (Base64.standard.encode bytes) = .ok bytes := by
  unfold readDigest
  dsimp only
  rw [length_utf8_encode, if_neg (by omega), Base64.decode?_encode Base64.standard_lawful]
  exact if_neg (by omega)

/-! ## Fields -/

/-- A text of five fields is read field by field. -/
theorem ofChars_fields {algorithm version params salt digest : List Char} {number : Nat}
    {terms : List (List Char × List Char)} {bytes : List UInt8}
    (halgorithm : '$' ∉ algorithm ∧ name algorithm = .ok algorithm)
    (hversion : '$' ∉ version ∧ readVersion? version = some (.ok number))
    (hparams : '$' ∉ params ∧ '=' ∈ params ∧ readParams params = .ok terms)
    (hsalt : '$' ∉ salt ∧ readSalt salt = .ok salt) (hdigest : '$' ∉ digest ∧ readDigest digest = .ok bytes) :
    ofChars ('$' :: (algorithm ++ '$' :: (version ++ '$' :: (params ++ '$' :: (salt ++ '$' :: digest))))) =
      .ok ⟨algorithm, some number, terms, some salt, some bytes⟩ := by
  have hfields : Text.splitOn '$' ('$' :: (algorithm ++ '$' :: (version ++ '$' :: (params ++ '$' :: (salt ++
      '$' :: digest))))) = [[], algorithm, version, params, salt, digest] := by
    rw [← List.nil_append ('$' :: _), Text.splitOn_append_cons List.not_mem_nil, Text.splitOn_append_cons halgorithm.1,
      Text.splitOn_append_cons hversion.1, Text.splitOn_append_cons hparams.1, Text.splitOn_append_cons hsalt.1,
      Text.splitOn_of_not_mem hdigest.1]
  unfold ofChars
  rw [hfields]
  simp only [halgorithm.2, readFields, hversion.2, hparams.2.1, hparams.2.2, hsalt.2, hdigest.2, bind, Except.bind,
    Except.map, if_true, List.isEmpty_nil]

end HashText

namespace Password

open Encoding (Base64)
open HashText

/-! ## Hash texts of passwords -/

/-- The terms that new hashes are made on, as their text gives them. -/
theorem readParams_default :
    readParams "m=19456,t=2,p=1".toList =
      .ok [(['m'], Nat.toDigits 10 defaultCost.memory), (['t'], Nat.toDigits 10 defaultCost.passes),
        (['p'], Nat.toDigits 10 defaultCost.lanes)] := by
  decide +kernel

/-- The text of a new hash: its fields, each after a dollar sign. -/
theorem chars_hash (salt : List UInt8) (password : String) :
    (hash salt password).chars =
      '$' :: ("argon2id".toList ++ '$' :: ("v=19".toList ++ '$' :: ("m=19456,t=2,p=1".toList ++
        '$' :: (Base64.standard.encode salt ++ '$' :: Base64.standard.encode
          (Digest.Argon2.hash .id .v19 defaultCost 32 (Text.Utf8.ofString password) salt []))))) := by
  have hparams : [','].intercalate ([(['m'], Nat.toDigits 10 defaultCost.memory),
      (['t'], Nat.toDigits 10 defaultCost.passes), (['p'], Nat.toDigits 10 defaultCost.lanes)].map
        fun p => p.1 ++ '=' :: p.2) = "m=19456,t=2,p=1".toList := by decide +kernel
  have hversion : ['v', '='] ++ Nat.toDigits 10 Digest.Argon2.Version.v19.number = "v=19".toList := by decide +kernel
  unfold chars hash
  simp only [hparams, hversion]
  simp

/-- The text of a new hash is read back as the hash. -/
theorem ofChars_hash {salt : List UInt8} (h1 : 3 ≤ salt.length) (h2 : salt.length ≤ 48) (password : String) :
    ofChars (hash salt password).chars = .ok (hash salt password) := by
  have hdigest : (Digest.Argon2.hash .id .v19 defaultCost 32 (Text.Utf8.ofString password) salt []).length = 32 :=
    Digest.Argon2.length_hash (by decide) _ _ _ _ _ _
  have hdollar (bytes : List UInt8) : '$' ∉ Base64.standard.encode bytes :=
    fun h => (isValueChar_of_mem_encode h).2.2 rfl
  rw [chars_hash]
  refine ofChars_fields ⟨by decide, by decide +kernel⟩ ⟨by decide, by decide +kernel⟩
    ⟨by decide, by decide, readParams_default⟩ ⟨hdollar _, readSalt_encode h1 h2⟩
    ⟨hdollar _, readDigest_encode (by rw [hdigest]; decide) (by rw [hdigest]; decide)⟩

/-- What a stored hash says of how it was made: the variant, the version, the cost and the salt, and the digest that
came of them. -/
structure States (stored : HashText) (variant : Digest.Argon2.Variant) (version : Digest.Argon2.Version)
    (cost : Digest.Argon2.Cost) (salt digest : List UInt8) : Prop where
  variant_eq : variant? stored.algorithm = some variant
  version_eq : version? stored.version = some version
  settings_eq : settings? stored.params = some ⟨cost, []⟩
  salt_eq : stored.salt.bind Base64.standard.decode? = some salt
  digest_eq : stored.digest = some digest

/-- A new hash states the terms that it was made on. -/
theorem states_hash (salt : List UInt8) (password : String) :
    States (hash salt password) .id .v19 defaultCost salt
      (Digest.Argon2.hash .id .v19 defaultCost 32 (Text.Utf8.ofString password) salt []) where
  variant_eq := show variant? "argon2id".toList = some .id by decide +kernel
  version_eq := rfl
  settings_eq := rfl
  salt_eq := Base64.decode?_encode Base64.standard_lawful salt
  digest_eq := rfl

/-- A password is hashed under the terms that a stored hash states. -/
theorem States.digest?_eq {stored : HashText} {variant : Digest.Argon2.Variant} {version : Digest.Argon2.Version}
    {cost : Digest.Argon2.Cost} {salt digest : List UInt8} (h : States stored variant version cost salt digest)
    (hsalt : 8 ≤ salt.length) (size : Nat) (password : String) :
    digest? stored size password =
      some (Digest.Argon2.hash variant version cost size (Text.Utf8.ofString password) salt []) := by
  obtain ⟨text, htext, hbytes⟩ := Option.bind_eq_some_iff.1 h.salt_eq
  unfold digest?
  simp only [htext, h.settings_eq, h.variant_eq, h.version_eq, hbytes, Option.bind_eq_bind, Option.bind_some,
    Nat.not_lt.2 hsalt, if_false]

/-- A password is accepted against the text that is stored for it. -/
theorem verify_hashText {salt : List UInt8} (h1 : 8 ≤ salt.length) (h2 : salt.length ≤ 48) (password : String) :
    verify password (hashText salt password) = .ok () := by
  have hdigest : (Digest.Argon2.hash .id .v19 defaultCost 32 (Text.Utf8.ofString password) salt []).length = 32 :=
    Digest.Argon2.length_hash (by decide) _ _ _ _ _ _
  unfold verify hashText
  rw [String.toList_ofList, ofChars_hash (by omega) h2]
  dsimp only [hash]
  rw [hdigest, if_pos]
  exact (states_hash salt password).digest?_eq h1 32 password

/-! ## What a check answers -/

/-- A password has a stored hash: under the terms of the hash it gives the digest that the hash holds. -/
def Matches (password : String) (stored : HashText) : Prop :=
  ∃ digest, stored.digest = some digest ∧ digest? stored digest.length password = some digest

variable {password stored : String}

/-- A stored text that is no hash is a fault of the configuration. -/
theorem verify_of_unreadable {fault : HashText.Fault} (h : HashText.ofChars stored.toList = .error fault) :
    verify password stored = .error (.configuration ("Invalid password hash: " ++ fault.text)) := by
  rw [verify, h]

/-- A password that does not have the stored hash is not authentic. -/
theorem verify_of_not_matches {hash : HashText} (h : HashText.ofChars stored.toList = .ok hash)
    (hother : ¬Matches password hash) : verify password stored = .error .notAuthenticated := by
  rw [verify, h]
  dsimp only
  cases hdigest : hash.digest with
  | none => rfl
  | some digest => exact if_neg fun hsame => hother ⟨digest, hdigest, hsame⟩

/-- A password is accepted when the stored text is a hash that it has. -/
theorem verify_of_matches {hash : HashText} (h : HashText.ofChars stored.toList = .ok hash)
    (hmatches : Matches password hash) : verify password stored = .ok () := by
  obtain ⟨digest, hdigest, hsame⟩ := hmatches
  rw [verify, h]
  dsimp only
  rw [hdigest]
  exact if_pos hsame

/-- A password that is accepted has the stored hash. -/
theorem exists_matches_of_verify (h : verify password stored = .ok ()) :
    ∃ hash, HashText.ofChars stored.toList = .ok hash ∧ Matches password hash := by
  cases hstored : HashText.ofChars stored.toList with
  | error fault =>
    rw [verify_of_unreadable hstored] at h
    cases h
  | ok hash =>
    refine ⟨hash, rfl, ?_⟩
    by_contra hother
    rw [verify_of_not_matches hstored hother] at h
    cases h

end Password

end Gatehouse
