import Gatehouse.Error
import Gatehouse.Settings.Tree
import Gatehouse.Text.Quoted

/-!
# What can be wrong with settings

A source that cannot be read, a setting that is not there or is of another kind than is wanted, or a value that the
checks refuse. The wording is in `SettingsError.message`.
-/

namespace Gatehouse

open Settings (Tree Scalar)

/-- Why there are no settings. -/
inductive SettingsError
  /-- The file is no document of its format; it is described if one line can do it. -/
  | document (file : String) (cause : Option String)
  /-- A setting is not given. -/
  | missing (key : String)
  /-- A value stands for no value of the kind that is wanted. -/
  | value (expected : String) (found : Tree) (key : String)
  /-- A number is too large for its setting. -/
  | tooLarge (n : Nat) (key : String)
  /-- A value has other parts than are wanted. -/
  | shape (expected : String) (found : Tree) (key : String)
  /-- A list has too few items. -/
  | length (expected : String) (found : Nat) (key : String)
  /-- The values do not pass the checks. -/
  | refused (e : CoreError)

namespace Settings

/-- A truth value in messages. -/
def boolText (b : Bool) : String := if b then "true" else "false"

/-- A value that stands for no value of the wanted kind, in a message. -/
def Tree.valueText : Tree → String
  | .scalar _ .nothing => "unit value"
  | .scalar _ (.bool b) => "boolean `" ++ boolText b ++ "`"
  | .scalar _ (.integer n) => "64-bit integer `" ++ toString n ++ "`"
  | .scalar _ (.float x) => "floating point `" ++ x.positionalText ++ "`"
  | .scalar _ (.text s) => "string " ++ Text.quoted s
  | .list _ _ => "sequence"
  | .table _ _ => "map"

/-- A value that has other parts than are wanted, in a message. -/
def Tree.shapeText : Tree → String
  | .scalar _ (.integer n) => "integer `" ++ toString n ++ "`"
  | .scalar _ (.float x) => "floating point `" ++ x.pointedText ++ "`"
  | t => t.valueText

end Settings

namespace SettingsError

/-- The key of a setting, in a message. -/
def atKey (key : String) : String := " for key `" ++ key ++ "`"

/-- The source of a value, in a message. -/
def fromSource (origin : Option String) : String :=
  match origin with
  | some source => " in " ++ source
  | none => ""

/-- The value of a document that is no table, in a message. -/
def rootText (file : String) (found : Tree) : String :=
  "invalid type: " ++ found.valueText ++ ", expected a map" ++ fromSource (some file)

/-- The error in words. -/
def message : SettingsError → String
  | .document file cause => cause.getD "malformed document" ++ fromSource (some file)
  | .missing key => "missing configuration field " ++ Text.quoted key
  | .value expected found key =>
    "invalid type: " ++ found.valueText ++ ", expected " ++ expected ++ atKey key ++ fromSource found.origin
  | .tooLarge n key =>
    "invalid type: 64-bit unsigned integer `" ++ toString n ++ "`, expected an unsigned 16 bit integer" ++ atKey key
  | .shape expected found key => "invalid type: " ++ found.shapeText ++ ", expected " ++ expected ++ atKey key
  | .length expected found key =>
    "invalid length " ++ toString found ++ ", expected " ++ expected ++ atKey key
  | .refused e => e.message

end SettingsError

end Gatehouse
