import Gatehouse.Json.Value

/-!
# Token headers

The first part of a token says how it is signed. It is a JSON object whose known members have their own kinds and
stand at most once, and whose other members are strings. The only algorithm that is accepted is HS256.
-/

namespace Gatehouse.TokenHeader

open Json (Value)

/-- The header of every token that is made here. -/
def made : List Char := "\x7b\"typ\":\"JWT\",\"alg\":\"HS256\"\x7d".toList

/-- A string. -/
def isString : Value → Bool
  | .string _ => true
  | _ => false

/-- A list of strings. -/
def isStrings : Value → Bool
  | .list items => items.all isString
  | _ => false

/-- A member that may be null. -/
def orNull (accepts : Value → Bool) : Value → Bool
  | .null => true
  | v => accepts v

/-- A name out of a fixed set: a string, or an object whose only member has that name and no value. -/
def isName (names : List String) : Value → Bool
  | .string s => names.contains s
  | .object [(s, .null)] => names.contains s
  | _ => false

/-! ## Keys inside headers -/

/-- The value of a member that stands exactly once. -/
def only? (name : String) (members : List (String × Value)) : Option Value :=
  match Value.members name members with
  | [v] => some v
  | _ => none

/-- A member that stands once and is as wanted. -/
def has (name : String) (accepts : Value → Bool) (members : List (String × Value)) : Bool :=
  match only? name members with
  | some v => accepts v
  | none => false

/-- A member that is absent or stands once and is as wanted. -/
def may (name : String) (accepts : Value → Bool) (members : List (String × Value)) : Bool :=
  match Value.members name members with
  | [] => true
  | [v] => accepts v
  | _ => false

/-- The algorithms that a key may be for; any other name is taken for an unknown one. -/
def isAlgorithmName : Value → Bool
  | .string _ => true
  | .object [(_, .null)] => true
  | _ => false

/-- The elliptic curves. -/
def curves : List String := ["P-256", "P-384", "P-521", "Ed25519"]

/-- The parameters of one of the four kinds of key. -/
def isKeyMaterial (members : List (String × Value)) : Bool :=
  (has "kty" (isName ["EC"]) members && has "crv" (isName curves) members && has "x" isString members
      && has "y" isString members)
    || (has "kty" (isName ["RSA"]) members && has "n" isString members && has "e" isString members)
    || (has "kty" (isName ["oct"]) members && has "k" isString members)
    || (has "kty" (isName ["OKP"]) members && has "crv" (isName curves) members && has "x" isString members)

/-- A key: its material and the members that any key may have. -/
def isKey : Value → Bool
  | .object members =>
    may "use" (orNull isString) members && may "key_ops" (orNull isStrings) members
      && may "alg" (orNull isAlgorithmName) members && may "kid" (orNull isString) members
      && may "x5u" (orNull isString) members && may "x5c" (orNull isStrings) members
      && may "x5t" (orNull isString) members && may "x5t#S256" (orNull isString) members
      && isKeyMaterial members
  | _ => false

/-! ## Headers -/

/-- The members of a header that are strings when they are there. -/
def stringMembers : List String :=
  ["typ", "cty", "jku", "kid", "x5u", "x5t", "x5t#S256", "enc", "zip", "url", "nonce"]

/-- The members of a header that are lists of strings when they are there. -/
def listMembers : List String := ["x5c", "crit"]

/-- Whether a member has a kind of its own. -/
def isKnown (name : String) : Bool :=
  name = "alg" || name = "jwk" || stringMembers.contains name || listMembers.contains name

/-- Whether the members of an object make a header that names HS256. -/
def accepts (members : List (String × Value)) : Bool :=
  has "alg" (isName ["HS256"]) members
    && may "jwk" (orNull isKey) members
    && stringMembers.all (fun name => may name (orNull isString) members)
    && listMembers.all (fun name => may name (orNull isStrings) members)
    && members.all (fun m => isKnown m.1 || isString m.2)

/-- Whether some bytes are a header that names HS256. -/
def acceptsBytes (s : List UInt8) : Bool :=
  match Value.ofBytes s with
  | .ok (.object members) => accepts members
  | _ => false

end Gatehouse.TokenHeader
