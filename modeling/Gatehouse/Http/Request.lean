import Gatehouse.Encoding.Hex
import Gatehouse.Http.Bearer
import Gatehouse.Text.Utf8

/-!
# Requests

A request as it arrives: method, target, headers, body and the address that it comes from. The names of headers are
compared without regard to case, and of several headers of one name the first counts.
-/

namespace Gatehouse.Http

/-- A request. -/
structure Request where
  method : String
  /-- The path, and the query if there is one. -/
  target : String
  headers : List (String × List UInt8)
  body : List UInt8
  /-- The address of the client, when it is known. -/
  client : Option String

namespace Request

/-- The first value of a header. -/
def header? (request : Request) (name : String) : Option (List UInt8) :=
  (request.headers.find? fun h => h.1.toList.map Text.lowerAscii = name.toList).map (·.2)

/-- The text of a header value, when it is visible: printing ASCII characters, blanks and tabs. -/
def visibleText? (value : List UInt8) : Option String :=
  if value.all fun b => (0x20 ≤ b && b < 0x7F) || b = 0x09 then Text.Utf8.decodeString? value else none

/-- The path of the target. -/
def path (request : Request) : String :=
  String.ofList (request.target.toList.takeWhile fun c => c ≠ '?' && c ≠ '#')

/-- Text whose bytes may be written as a percent sign and two digits. -/
def percentDecode : List UInt8 → List UInt8
  | [] => []
  | b :: high :: low :: rest =>
    match Encoding.Hex.value? (Char.ofNat high.toNat), Encoding.Hex.value? (Char.ofNat low.toNat) with
    | some h, some l =>
      if b = 0x25 then (h * 16 + l).toUInt8 :: percentDecode rest else b :: percentDecode (high :: low :: rest)
    | _, _ => b :: percentDecode (high :: low :: rest)
  | b :: rest => b :: percentDecode rest

/-- The segments of the path, decoded; empty ones do not count. -/
def segments (request : Request) : List String :=
  ((Text.splitOn '/' request.path.toList).filter (!·.isEmpty)).map fun segment =>
    String.ofList (Text.Utf8.decodeLossy (percentDecode (Text.Utf8.encode segment)))

/-- The name of the header that carries credentials. -/
def authorizationHeader : String := "authorization"

/-- The bearer credential of a request; a header that is not visible text carries none. -/
def credential (request : Request) : Except ServiceError String :=
  match request.header? authorizationHeader with
  | none => bearerToken none
  | some value =>
    match visibleText? value with
    | some text => bearerToken (some text)
    | none => .error .notAuthenticated

/-- What the client says that it is. -/
def userAgent (request : Request) : String := ((request.header? "user-agent").bind visibleText?).getD ""

end Request

end Gatehouse.Http
