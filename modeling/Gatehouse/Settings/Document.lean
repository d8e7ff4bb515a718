import Gatehouse.Files
import Gatehouse.Json.Value
import Gatehouse.Settings.Error
import Gatehouse.Text.Utf8
import Gatehouse.Toml.Document

/-!
# Settings in a file

The settings file is written in TOML or in JSON. Either is turned into values that name the file as their source. Files
in other formats are looked for, too, but there is no reader for them here: they give an error.
-/

namespace Gatehouse.Settings

/-- The name of the settings file. -/
def fileName : String := "config.toml"

/-- The formats of a settings file. -/
inductive Format
  | toml
  | json
  /-- A format that is not read here. -/
  | other
  deriving DecidableEq

/-- The files that settings are looked for in: the first that is there is read. -/
def candidates : List (String × Format) :=
  [(fileName, .toml), (fileName ++ ".toml", .toml), (fileName ++ ".json", .json), (fileName ++ ".yaml", .other),
    (fileName ++ ".yml", .other), (fileName ++ ".ini", .other), (fileName ++ ".ron", .other),
    (fileName ++ ".json5", .other)]

/-! ## Values of documents -/

mutual

/-- A TOML value as a value of a source; dates and times are texts. -/
def ofToml (file : String) : Toml.Value → Tree
  | .text s | .moment s => .scalar (some file) (.text s)
  | .integer n => .scalar (some file) (.integer n)
  | .float x => .scalar (some file) (.float x)
  | .bool b => .scalar (some file) (.bool b)
  | .list items => .list (some file) (ofTomlItems file items)
  | .table members => .table (some file) (ofTomlMembers file members)

@[inherit_doc ofToml]
def ofTomlItems (file : String) : List Toml.Value → List Tree
  | [] => []
  | v :: rest => ofToml file v :: ofTomlItems file rest

@[inherit_doc ofToml]
def ofTomlMembers (file : String) : List (String × Toml.Value) → List (String × Tree)
  | [] => []
  | (key, v) :: rest => (key, ofToml file v) :: ofTomlMembers file rest

end

/-- An integer of a JSON text: one that does not fit into 64 bits with a sign is taken as a floating-point number. -/
def ofJsonInteger (n : Int) : Scalar :=
  if Decimal.isInt64 n then .integer n else .float (.ofNat (n < 0) n.natAbs)

/-- Adds a member, in place of the one that its name has. -/
def replaceMember (key : String) (t : Tree) (members : List (String × Tree)) : List (String × Tree) :=
  members.filter (·.1 ≠ key) ++ [(key, t)]

mutual

/-- A JSON value as a value of a source. Of members with one name the last counts. -/
def ofJson (file : String) : Json.Value → Tree
  | .null => .scalar (some file) .nothing
  | .bool b => .scalar (some file) (.bool b)
  | .integer n => .scalar (some file) (ofJsonInteger n)
  | .float x => .scalar (some file) (.float x)
  | .string s => .scalar (some file) (.text s)
  | .list items => .list (some file) (ofJsonItems file items)
  | .object members => .table (some file) (ofJsonMembers file [] members)

@[inherit_doc ofJson]
def ofJsonItems (file : String) : List Json.Value → List Tree
  | [] => []
  | v :: rest => ofJson file v :: ofJsonItems file rest

@[inherit_doc ofJson]
def ofJsonMembers (file : String) (done : List (String × Tree)) :
    List (String × Json.Value) → List (String × Tree)
  | [] => done
  | (key, v) :: rest => ofJsonMembers file (replaceMember key (ofJson file v) done) rest

end

/-! ## Files -/

/-- The text of a file: a mark of its byte order is left out, and what is not well formed is replaced. -/
def fileText (bytes : List UInt8) : List Char :=
  Text.Utf8.decodeLossy (match bytes with
    | 0xEF :: 0xBB :: 0xBF :: rest => rest
    | _ => bytes)

/-- The members of the table that a document is. -/
def readDocument (file : String) (format : Format) (s : List Char) : Except SettingsError (List (String × Tree)) :=
  match format with
  | .toml =>
    match Toml.document? s with
    | some members => .ok (ofTomlMembers file members)
    | none => .error (.document file none)
  | .json =>
    let bytes := Text.Utf8.encode s
    match Json.Value.ofBytes bytes with
    | .error f => .error (.document file (some (f.text bytes)))
    | .ok v =>
      match ofJson file v with
      | .table _ members => .ok members
      | t => .error (.document file (some (SettingsError.rootText file t)))
  | .other => .error (.document file (some "no reader for the format"))

/-- The settings that the first of some files gives; none if no file is there. -/
def readFirst (files : Files) : List (String × Format) → Except SettingsError (List (String × Tree))
  | [] => .ok []
  | (file, format) :: rest =>
    match files.content? file with
    | some bytes => readDocument file format (fileText bytes)
    | none => readFirst files rest

/-- The settings that the settings file gives. -/
def ofFiles (files : Files) : Except SettingsError (List (String × Tree)) := readFirst files candidates

end Gatehouse.Settings
