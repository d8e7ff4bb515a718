/-!
# Content types

The media type in a header: a type and a subtype, divided by a slash, and parameters. What matters here is whether it
names JSON; the parameters must be well formed, but say nothing.
-/

namespace Gatehouse.Http

/-- A character of a token: a visible ASCII character that is no delimiter. -/
def isTokenChar (c : Char) : Bool :=
  c.isAlphanum || c ∈ ['!', '#', '$', '%', '&', '\'', '*', '+', '-', '.', '^', '_', '`', '|', '~']

/-- A character that a quoted parameter may hold. -/
def isQuotedChar (c : Char) : Bool := 31 < c.toNat && c.toNat ≠ 127

/-- The rest of a parameter's quoted value after its first character; the quote that ends it is passed over. -/
def skipQuoted : List Char → Option (List Char)
  | [] => none
  | c :: rest => if c = '"' then some rest else if isQuotedChar c then skipQuoted rest else none

/-- What follows a quoted value: blanks, and then a semicolon or nothing. -/
def skipAfterQuoted : List Char → Option (List Char)
  | [] => some []
  | ' ' :: rest => skipAfterQuoted rest
  | ';' :: rest => some rest
  | _ => none

/-- The text after the value of a parameter. An unquoted value may only be empty at the very end. -/
def skipParameterValue (s : List Char) : Option (List Char) :=
  match s with
  | '"' :: c :: rest => if isQuotedChar c then (skipQuoted rest).bind skipAfterQuoted else none
  | ['"'] => none
  | _ =>
    match s.dropWhile isTokenChar with
    | [] => some []
    | ';' :: rest => if s.head? = some ';' then none else some rest
    | _ => none

/-- Whether a text is a list of parameters, divided by semicolons, in at most `fuel` of them. -/
def areParameters : (fuel : Nat) → List Char → Bool
  | 0, s => s.isEmpty
  | fuel + 1, s =>
    match s.dropWhile (· = ' ') with
    | [] => true
    | s =>
      match s.dropWhile isTokenChar with
      | '=' :: rest =>
        !(s.head? = some '=') &&
          match skipParameterValue rest with
          | some rest => areParameters fuel rest
          | none => false
      | _ => false

/-- The subtype of a media type, without its suffix; `none` when the text is no media type. -/
def subtype? (s : List Char) : Option (List Char) :=
  match s.dropWhile isTokenChar with
  | '/' :: rest =>
    let name := rest.takeWhile isTokenChar
    let base (name : List Char) : List Char :=
      match name with
      | [] => []
      | c :: tail =>
        match (tail.reverse.dropWhile (· ≠ '+')) with
        | [] => name
        | _ :: before => c :: before.reverse
    if s.head? = some '/' then none
    else
      match rest.dropWhile isTokenChar with
      | [] => some (base name)
      | ';' :: params => if name.isEmpty || !areParameters (params.length + 1) params then none else some (base name)
      | _ => none
  | _ => none

/-- Whether a content type names JSON, in letters of either case. -/
def isJsonType (s : List Char) : Bool := (subtype? s).any fun name => name.map Char.toLower = "json".toList

end Gatehouse.Http
