import Gatehouse.Password.Verify
import Gatehouse.Text.Blank

/-!
# The command that hashes a password

The password is the first argument or, without arguments, the first line of the input. The command prints the text that
is stored for it.
-/

namespace Gatehouse.Password

/-- What a command ends with: its code, and what it has printed. -/
structure Exit where
  code : UInt32
  output : String
  errors : String
  deriving DecidableEq

/-- The first line of some bytes, without the line feed and the carriage returns before it; `none` if it is no text. -/
def firstLine? (input : List UInt8) : Option String :=
  (Text.Utf8.decode? (input.takeWhile (· ≠ 0x0A))).map fun line =>
    String.ofList (line.reverse.dropWhile (· = '\r')).reverse

/-- How the command is used. -/
def usage : String := "Usage: hash_password <password>  (or pipe the password on stdin)\n"

/-- The command, with the salt that is drawn for it. -/
def command (salt : List UInt8) (arguments : List String) (input : List UInt8) : Exit :=
  let password := match arguments with
    | first :: _ => some first
    | [] => firstLine? input
  match password with
  | none => ⟨1, "", "Failed to read password from stdin: stream did not contain valid UTF-8\n"⟩
  | some password => if password.isEmpty then ⟨2, "", usage⟩ else ⟨0, hashText salt password ++ "\n", ""⟩

end Gatehouse.Password
