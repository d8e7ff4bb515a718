import Gatehouse.Toml.Scan

/-!
# TOML documents

A document is a sequence of statements: table headers and assignments, whose values are words, strings, arrays and
inline tables. The statements build one tree of tables, in which nothing is defined twice: `add` refuses a statement
that would.
-/

namespace Gatehouse.Toml

/-- A value of a document. -/
inductive Value
  | text (s : String)
  | integer (n : Int)
  | float (x : Binary64)
  | bool (b : Bool)
  /-- A date or a time, as its text. -/
  | moment (s : String)
  | list (items : List Value)
  | table (members : List (String × Value))

/-! ## The tree under construction -/

/-- How a table came to be. -/
inductive Origin
  /-- By its own header, or as the document or an inline table. -/
  | header
  /-- On the way to the table of a longer header. -/
  | passed
  /-- By a dotted key. -/
  | dotted
  deriving DecidableEq

/-- A node of the tree: a finished value, a table that can grow, or an array of tables, the last of which can. -/
inductive Node
  | value (v : Value)
  | table (origin : Origin) (members : List (String × Node))
  | tables (elements : List (List (String × Node)))

/-- The members of a table that can grow. -/
abbrev Members := List (String × Node)

/-- The members with the node of a key replaced or, if there is none, added at the end. -/
def Members.put (key : String) (node : Node) : Members → Members
  | [] => [(key, node)]
  | (k, n) :: rest => if k = key then (key, node) :: rest else (k, n) :: put key node rest

/-- Changes the table at the end of a path, making the tables that are not there. With `dotted` the path is that of a
dotted key, which makes tables of its own and does not enter those that have a header. `change` is told how the table
came to be. -/
def descend (dotted : Bool) (change : Origin → Members → Option Members) :
    (origin : Origin) → (path : List String) → Members → Option Members
  | origin, [], members => change origin members
  | _, key :: path, members =>
    match members.lookup key with
    | none =>
      let origin := if dotted then .dotted else .passed
      (descend dotted change origin path []).map fun inner => members.put key (.table origin inner)
    | some (.table origin inner) =>
      if dotted && origin = .header then none
      else (descend dotted change origin path inner).map fun inner => members.put key (.table origin inner)
    | some (.tables elements) =>
      match elements.getLast? with
      | some last =>
        (descend dotted change .header path last).map fun last => members.put key (.tables (elements.dropLast ++ [last]))
      | none => none
    | some (.value _) => none

/-- Assigns a value to a dotted key in a table. -/
def assign (keys : List String) (v : Value) (members : Members) : Option Members :=
  match keys.getLast? with
  | none => none
  | some key =>
    let path := keys.dropLast
    descend true
      (fun origin inner =>
        if (!path.isEmpty && origin ≠ .dotted) || (inner.lookup key).isSome then none
        else some (inner ++ [(key, .value v)]))
      .header path members

/-- Opens the table of a header. -/
def openTable (key : String) (members : Members) : Option Members :=
  match members.lookup key with
  | none => some (members ++ [(key, .table .header [])])
  | some (.table .passed inner) => some (members.put key (.table .header inner))
  | _ => none

/-- Opens another table of an array of tables. -/
def openElement (key : String) (members : Members) : Option Members :=
  match members.lookup key with
  | none => some (members ++ [(key, .tables [[]])])
  | some (.tables elements) => some (members.put key (.tables (elements ++ [[]])))
  | _ => none

mutual

/-- The value of a node. -/
def Node.finished : Node → Value
  | .value v => v
  | .table _ members => .table (memberValues members)
  | .tables elements => .list (elementValues elements)

/-- The values of members. -/
def memberValues : List (String × Node) → List (String × Value)
  | [] => []
  | (key, node) :: rest => (key, node.finished) :: memberValues rest

/-- The values of the elements of an array of tables. -/
def elementValues : List (List (String × Node)) → List Value
  | [] => []
  | members :: rest => .table (memberValues members) :: elementValues rest

end

/-! ## Values -/

/-- The value of a word. -/
def wordValue? (word : List Char) : Option Value :=
  if word = "true".toList then some (.bool true)
  else if word = "false".toList then some (.bool false)
  else
    match number? word with
    | some (.integer n) => some (.integer n)
    | some (.float x) => some (.float x)
    | none => (moment? word).map fun text => .moment (String.ofList text)

mutual

/-- A value, in at most `fuel` steps. -/
def readValue : (fuel : Nat) → List Char → Front Value
  | 0, _ => none
  | fuel + 1, s =>
    match s with
    | '"' :: _ | '\'' :: _ => (readString s).map fun (text, rest) => (.text text, rest)
    | '[' :: rest => (readItems fuel rest).map fun (items, rest) => (.list items, rest)
    | '{' :: rest => (readMembers fuel [] rest).map fun (members, rest) => (.table (memberValues members), rest)
    | _ =>
      let (word, rest) := readWord s
      (wordValue? word).map fun v => (v, rest)

/-- The items of an array, after its opening bracket or a comma. -/
def readItems : (fuel : Nat) → List Char → Front (List Value)
  | 0, _ => none
  | fuel + 1, s =>
    match skipLines s.length s with
    | ']' :: rest => some ([], rest)
    | s =>
      match readValue fuel s with
      | none => none
      | some (item, rest) =>
        match skipLines rest.length rest with
        | ',' :: rest => (readItems fuel rest).map fun (items, rest) => (item :: items, rest)
        | ']' :: rest => some ([item], rest)
        | _ => none

/-- The members of an inline table, after its opening brace or a comma. -/
def readMembers : (fuel : Nat) → Members → List Char → Front Members
  | 0, _, _ => none
  | fuel + 1, members, s =>
    match skipLines s.length s with
    | '}' :: rest => some (members, rest)
    | s =>
      match readAssignment fuel s with
      | none => none
      | some ((keys, v), rest) =>
        match assign keys v members with
        | none => none
        | some members =>
          match skipLines rest.length rest with
          | ',' :: rest => readMembers fuel members rest
          | '}' :: rest => some (members, rest)
          | _ => none

/-- Keys, an equals sign and a value. -/
def readAssignment : (fuel : Nat) → List Char → Front (List String × Value)
  | 0, _ => none
  | fuel + 1, s =>
    match readKeys s.length s with
    | some (keys, '=' :: rest) => (readValue fuel (skipBlanks rest)).map fun (v, rest) => ((keys, v), rest)
    | _ => none

end

/-! ## Statements -/

/-- A document that is being read: its tree, and the path of the table that assignments go to. -/
structure Draft where
  root : Members
  current : List String

/-- Changes the table at the end of a path of headers. -/
def Draft.change (d : Draft) (path : List String) (change : Members → Option Members) : Option Members :=
  descend false (fun _ inner => change inner) .header path d.root

/-- Opens the table of a header, of an array of tables or not. -/
def Draft.header (d : Draft) (isElement : Bool) (keys : List String) : Option Draft :=
  match keys.getLast? with
  | none => none
  | some key =>
    (d.change keys.dropLast (if isElement then openElement key else openTable key)).map fun root =>
      { root, current := keys }

/-- The statement at the front of a text, added to the draft. -/
def readStatement (d : Draft) (s : List Char) : Front Draft :=
  match s with
  | '[' :: '[' :: rest =>
    match readKeys rest.length rest with
    | some (keys, ']' :: ']' :: rest) => (d.header true keys).map fun d => (d, rest)
    | _ => none
  | '[' :: rest =>
    match readKeys rest.length rest with
    | some (keys, ']' :: rest) => (d.header false keys).map fun d => (d, rest)
    | _ => none
  | _ =>
    match readAssignment (2 * s.length + 2) s with
    | none => none
    | some ((keys, v), rest) =>
      (d.change d.current (assign keys v)).map fun root => ({ d with root }, rest)

/-- The statements of a text, one a line, at most `fuel` of them. -/
def readStatements : (fuel : Nat) → Draft → List Char → Option Draft
  | 0, _, _ => none
  | fuel + 1, d, s =>
    match skipLines s.length s with
    | [] => some d
    | s =>
      match readStatement d s with
      | none => none
      | some (d, rest) =>
        match endLine? rest with
        | none => none
        | some rest => readStatements fuel d rest

/-- The members of the table that a document writes. -/
def document? (s : List Char) : Option (List (String × Value)) :=
  (readStatements (s.length + 1) ⟨[], []⟩ s).map fun d => memberValues d.root

end Gatehouse.Toml
