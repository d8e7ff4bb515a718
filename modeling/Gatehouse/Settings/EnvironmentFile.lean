import Gatehouse.Settings.Environment
import Gatehouse.Text.Alphanumeric
import Gatehouse.Text.Utf8

/-!
# Environment files

A file of assignments, one a line, each of which sets a variable that is not set yet. Values may be quoted, and outside
single quotes `$name` and `${name}` stand for the text of a variable. Reading ends at the first fault, and the
assignments before it count.
-/

namespace Gatehouse.EnvironmentFile

open Text (isBlank)

/-! ## Lines -/

/-- The lines of some bytes, each with its line feed. -/
def rawLines : List UInt8 → List (List UInt8)
  | [] => []
  | b :: rest =>
    if b = 0x0A then [b] :: rawLines rest
    else
      match rawLines rest with
      | [] => [[b]]
      | line :: lines => (b :: line) :: lines

/-- What a line is in the middle of. -/
inductive Open
  /-- Nothing that needs more. -/
  | nothing
  | blank
  | escape
  | weak
  | weakEscape
  | strong
  | strongEscape
  /-- A comment, and what the line has before it. -/
  | comment (before : List Char)
  deriving DecidableEq

/-- What a character opens outside quotes. -/
def Open.start (c : Char) : Open :=
  if c = '\\' then .escape else if c = '"' then .weak else if c = '\'' then .strong else .nothing

/-- What a character opens. -/
def Open.next (o : Open) (c : Char) : Open :=
  match o with
  | .nothing => if isBlank c && c ≠ '\n' && c ≠ '\r' then .blank else .start c
  | .blank => .start c
  | .escape => .nothing
  | .weak => if c = '\\' then .weakEscape else if c = '"' then .nothing else .weak
  | .weakEscape => .weak
  | .strong => if c = '\\' then .strongEscape else if c = '\'' then .nothing else .strong
  | .strongEscape => .strong
  | .comment before => .comment before

/-- What a piece of a line ends in the middle of. A hash after a blank begins a comment. -/
def scan : Open → (done : List Char) → List Char → Open
  | o, _, [] => o
  | o, done, c :: rest => if o = .blank && c = '#' then .comment done.reverse else scan (o.next c) (c :: done) rest

/-- A line without its ending. -/
def dropEnding (line : List Char) : List Char :=
  match line.reverse with
  | '\n' :: '\r' :: rest => rest.reverse
  | '\n' :: rest => rest.reverse
  | _ => line

/-- The assignments of some lines as text: a line that ends inside quotes, after a blank or after a backslash goes on in
the next. They end at the first that has no end or is no text. -/
def wholeLines : Open → (begun : List Char) → List (List UInt8) → List (List Char)
  | _, _, [] => []
  | o, begun, raw :: raws =>
    match Text.Utf8.decode? raw with
    | none => []
    | some piece =>
      if (Text.trimStart (begun ++ piece)).head? = some '#' then [] :: wholeLines .nothing [] raws
      else
        match scan o [] piece with
        | .nothing => dropEnding (begun ++ piece) :: wholeLines .nothing [] raws
        | .comment before => (begun ++ before) :: wholeLines .nothing [] raws
        | o => wholeLines o (begun ++ piece) raws

/-- The assignments of a file as text. -/
def lines (bytes : List UInt8) : List (List Char) :=
  let bytes := match bytes with
    | 0xEF :: 0xBB :: 0xBF :: rest => rest
    | _ => bytes
  wholeLines .nothing [] (rawLines bytes)

/-! ## Values -/

/-- How the next character of a value is read. -/
inductive Mode
  | bare
  /-- In double quotes. -/
  | weak
  /-- In single quotes. -/
  | strong
  /-- After a backslash, in double quotes or not. -/
  | escape (quoted : Bool)
  /-- In the name of a variable, in double quotes or not. -/
  | name (quoted : Bool) (name : List Char)
  /-- In the name of a variable between braces. -/
  | braced (quoted : Bool) (name : List Char)
  /-- After the blank that ends a value. -/
  | ended

/-- The mode after something inside double quotes or outside. -/
def Mode.back (quoted : Bool) : Mode := if quoted then .weak else .bare

/-- The character that an escape stands for. -/
def unescape? (c : Char) : Option Char :=
  if c ∈ ['\\', '\'', '"', '$', ' '] then some c else if c = 'n' then some '\n' else none

/-- A value, from a mode on. -/
def readValue (lookup : List Char → List Char) : Mode → List Char → Option (List Char)
  | .bare, [] => some []
  | .ended, [] => some []
  | .escape false, [] => some []
  | .name false name, [] => some (lookup name)
  | _, [] => none
  | .bare, c :: rest =>
    if c = '$' then readValue lookup (.name false []) rest
    else if c = '\'' then readValue lookup .strong rest
    else if c = '"' then readValue lookup .weak rest
    else if c = '\\' then readValue lookup (.escape false) rest
    else if c = ' ' || c = '\t' then readValue lookup .ended rest
    else (readValue lookup .bare rest).map (c :: ·)
  | .weak, c :: rest =>
    if c = '$' then readValue lookup (.name true []) rest
    else if c = '"' then readValue lookup .bare rest
    else if c = '\\' then readValue lookup (.escape true) rest
    else (readValue lookup .weak rest).map (c :: ·)
  | .strong, c :: rest =>
    if c = '\'' then readValue lookup .bare rest else (readValue lookup .strong rest).map (c :: ·)
  | .escape quoted, c :: rest =>
    match unescape? c with
    | some d => (readValue lookup (.back quoted) rest).map (d :: ·)
    | none => none
  | .name quoted name, c :: rest =>
    if Text.isAlphanumeric c then readValue lookup (.name quoted (name ++ [c])) rest
    else if c = '{' && name.isEmpty then readValue lookup (.braced quoted []) rest
    else if c = '$' then (readValue lookup (.name quoted []) rest).map (lookup name ++ ·)
    else (readValue lookup (.back quoted) rest).map (lookup name ++ c :: ·)
  | .braced quoted name, c :: rest =>
    if c = '}' then (readValue lookup (.back quoted) rest).map (lookup name ++ ·)
    else readValue lookup (.braced quoted (name ++ [c])) rest
  | .ended, c :: rest =>
    if c = ' ' || c = '\t' then readValue lookup .ended rest else if c = '#' then some [] else none

/-! ## Assignments -/

/-- The name at the front of a text. -/
def readName (s : List Char) : Option (String × List Char) :=
  match s with
  | [] => none
  | c :: _ =>
    if c.isAlpha || c = '_' then
      let name := s.takeWhile fun c => c.isAlphanum || c = '_' || c = '.'
      some (String.ofList name, s.drop name.length)
    else none

/-- The text after blanks and an equals sign. -/
def afterEquals (s : List Char) : Option (List Char) :=
  match Text.trimStart s with
  | '=' :: rest => some rest
  | _ => none

/-- The name that is assigned to, which may have `export` before it, and the text after the equals sign. -/
def readTarget (s : List Char) : Option (String × List Char) :=
  match readName s with
  | none => none
  | some (name, rest) =>
    match afterEquals rest with
    | some value => some (name, value)
    | none =>
      if name = "export" then
        match readName (Text.trimStart rest) with
        | none => none
        | some (name, rest) => (afterEquals rest).map fun value => (name, value)
      else none

/-- Whether a text holds nothing but a comment. -/
def isVoid (s : List Char) : Bool := s.isEmpty || s.head? = some '#'

/-- An assignment. -/
def readAssignment (lookup : List Char → List Char) (s : List Char) : Option (String × String) :=
  match readTarget s with
  | none => none
  | some (name, rest) =>
    let rest := Text.trimStart rest
    if isVoid rest then some (name, "")
    else (readValue lookup .bare rest).map fun value => (name, String.ofList value)

/-- Sets the variables of some lines, up to the first that is no assignment. -/
def setLines : Environment → List (List Char) → Environment
  | env, [] => env
  | env, line :: rest =>
    let line := Text.trim line
    if isVoid line then setLines env rest
    else
      match readAssignment (fun name => ((env.get? (String.ofList name)).getD "").toList) line with
      | some (name, text) => setLines (env.setNew name text) rest
      | none => env

/-- Sets the variables of a file that are not set yet. -/
def load (env : Environment) (bytes : List UInt8) : Environment := setLines env (lines bytes)

end Gatehouse.EnvironmentFile
