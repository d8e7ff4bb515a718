import Gatehouse.Settings.Tree
import Gatehouse.Text.Utf8

/-!
# Settings in the environment

Environment variables, and the settings that they give: `SCOREIT__TOKEN__ISSUER` gives `token.issuer`. Names count in
either case. A variable without text gives nothing, and a text that reads as a truth value or a number is one.
-/

namespace Gatehouse

/-- Environment variables, each name once. -/
structure Environment where
  entries : List (String × String)

namespace Environment

/-- The text of a variable. -/
def get? (env : Environment) (name : String) : Option String := env.entries.lookup name

/-- Sets a variable that is not set yet. -/
def setNew (env : Environment) (name text : String) : Environment :=
  match env.get? name with
  | some _ => env
  | none => ⟨env.entries ++ [(name, text)]⟩

/-- The variables in a block of bytes: names and values with an equals sign between them, each pair ended by a zero. An
equals sign in the first place belongs to the name. What has no other, or a name that is no text, is left out. -/
def rawEntries (block : List UInt8) : List (String × List UInt8) :=
  (Text.splitOn 0 block).filterMap fun entry =>
    match entry with
    | [] => none
    | first :: rest =>
      (Text.cutAt? 0x3D rest).bind fun (name, value) =>
        (Text.Utf8.decodeString? (first :: name)).map fun name => (name, value)

/-- The environment of a block: those of its variables whose values are texts. -/
def ofBlock (block : List UInt8) : Environment :=
  ⟨(rawEntries block).filterMap fun (name, value) => (Text.Utf8.decodeString? value).map fun text => (name, text)⟩

end Environment

namespace Settings

/-- How the names of the variables of this program begin. -/
def variableStart : List Char := "scoreit__".toList

/-- A character of a name in lower case. Of the other alphabets only the Kelvin sign has an ASCII letter for its lower
case, and no name of a setting has other letters. -/
def lowerInName (c : Char) : Char := if c = '\u212A' then 'k' else Text.lowerAscii c

/-- A name with dots in place of double underscores. -/
def dotted : List Char → List Char
  | '_' :: '_' :: rest => '.' :: dotted rest
  | c :: rest => c :: dotted rest
  | [] => []

/-- The name of a variable of this program without its beginning. -/
def ownName? (name : String) : Option (List Char) :=
  let name := name.toList.map lowerInName
  if variableStart.isPrefixOf name then some (name.drop variableStart.length) else none

/-- The key of the setting that a variable is for. -/
def keyOfVariable? (name : String) : Option String := (ownName? name).map fun own => String.ofList (dotted own)

/-- The first variable of this program in a block whose value is no text, if the environment does not have it either: its
own name, and its value. -/
def unreadable? (env : Environment) (block : List UInt8) : Option (String × List UInt8) :=
  (Environment.rawEntries block).findSome? fun (name, value) =>
    if (Text.Utf8.decodeString? value).isSome || (env.get? name).isSome then none
    else (ownName? name).map fun own => (String.ofList own, value)

/-- The value that a text stands for: a truth value, a number or the text. -/
def Scalar.ofText (s : String) : Scalar :=
  let word := String.ofList (s.toList.map Text.lowerAscii)
  if word = "true" then .bool true
  else if word = "false" then .bool false
  else
    match Decimal.int64? s.toList, Decimal.float? s.toList with
    | some n, _ => .integer n
    | none, some x => .float x
    | none, none => .text s

/-- The environment as a source of values. -/
def environmentSource : String := "the environment"

/-- The settings that the environment gives. -/
def ofEnvironment (env : Environment) : List (String × Tree) :=
  env.entries.filterMap fun (name, text) =>
    if text.isEmpty then none
    else (keyOfVariable? name).map fun key => (key, .scalar (some environmentSource) (.ofText text))

end Settings

end Gatehouse
