import Gatehouse.Digest.Hmac
import Gatehouse.Encoding.Base64
import Gatehouse.Token.Claims
import Gatehouse.Token.Header

/-!
# Making and verifying tokens

A token is three parts divided by dots: a header, the claims, and the authentication code of the first two under the
maker's key, all in URL-safe base64. A maker issues tokens with its own issuer and audience and accepts only those.
-/

namespace Gatehouse

/-- The length of a maker's key in bytes. -/
def TokenMaker.keySize : Nat := 32

/-- What issues and verifies tokens. -/
structure TokenMaker where
  key : List UInt8
  issuer : String
  audience : String
  key_length : key.length = TokenMaker.keySize

namespace TokenMaker

open Encoding (Base64)

/-- The maker with a key of the right size. -/
def ofKey (key : List UInt8) (issuer audience : String) : Except TokenError TokenMaker :=
  if h : key.length = keySize then .ok ⟨key, issuer, audience, h⟩ else .error (.keySize keySize key.length)

/-! ## Making -/

/-- The signature of the first two parts of a token. -/
def signature (maker : TokenMaker) (signed : List Char) : List Char :=
  Base64.urlSafe.encode (Digest.hmacSha256 maker.key (Text.Utf8.encode signed))

/-- The first two parts of the token of some claims. -/
def signedPart (claims : Claims) : List Char :=
  Base64.urlSafe.encode (Text.Utf8.encode TokenHeader.made) ++
    '.' :: Base64.urlSafe.encode (Text.Utf8.encode claims.json.write)

/-- The token of some claims. -/
def sign (maker : TokenMaker) (claims : Claims) : String :=
  String.ofList (signedPart claims ++ '.' :: maker.signature (signedPart claims))

/-- The claims of a token issued now for a time, if it expires at an instant. -/
def claims (maker : TokenMaker) (now : Instant) (id userId : Uuid) (roles : List Role) (lifetime : Duration) :
    Except TokenError Claims :=
  match now.floor.add? lifetime with
  | none => .error .duration
  | some expireAt =>
    .ok
      { id, userId, issuedAt := now.floor, expireAt, notBefore := now.floor, audience := maker.audience,
        issuer := maker.issuer, subject := Claims.subjectText, roles }

/-- Issues a token for a user. -/
def issue (maker : TokenMaker) (now : Instant) (id userId : Uuid) (roles : List Role) (lifetime : Duration) :
    Except TokenError (String × Claims) :=
  (maker.claims now id userId roles lifetime).map fun c => (maker.sign c, c)

/-! ## Verifying -/

/-- A text cut at its last dot. -/
def cutLast? (s : List Char) : Option (List Char × List Char) :=
  (Text.cutAt? '.' s.reverse).map fun (after, before) => (before.reverse, after.reverse)

/-- Whether claims are ones that this maker makes: its audience and issuer, and times that begin in 1970. -/
def accepts (maker : TokenMaker) (c : Claims) : Bool :=
  c.audience = maker.audience && c.issuer = maker.issuer && 0 ≤ c.expireAt.seconds && 0 ≤ c.notBefore.seconds

/-- The claims of a token that this maker has signed, whenever they hold. -/
def authentic? (maker : TokenMaker) (token : List Char) : Option Claims := do
  let (signed, code) ← cutLast? token
  let (header, payload) ← cutLast? signed
  let headerBytes ← Base64.urlSafe.decode? header
  let codeBytes ← Base64.urlSafe.decode? code
  let payloadBytes ← Base64.urlSafe.decode? payload
  if TokenHeader.acceptsBytes headerBytes
      && codeBytes = Digest.hmacSha256 maker.key (Text.Utf8.encode signed) then
    match Claims.ofObject? payloadBytes with
    | some c => if maker.accepts c then some c else none
    | none => none
  else none

/-- The claims of a token that this maker has signed and that holds now. -/
def verify (maker : TokenMaker) (now : Instant) (token : String) : Except TokenError Claims :=
  match maker.authentic? token.toList with
  | none => .error .invalid
  | some c => (c.validAt now).map fun () => c

end TokenMaker

end Gatehouse
