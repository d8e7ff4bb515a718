import Gatehouse.Decimal.Reading

/-!
# Layers of settings

What sources say, before it is known which settings it is for: trees of scalars, lists and tables, each value with the
source that it is from. Sources are laid over each other. A table is laid over a table member by member; every other
value takes the place of what was there.
-/

namespace Gatehouse.Settings

/-- A value without parts. -/
inductive Scalar
  | nothing
  | bool (b : Bool)
  | integer (n : Int)
  | float (x : Binary64)
  | text (s : String)
  deriving DecidableEq

/-- A value and the source that it is from. -/
inductive Tree
  | scalar (origin : Option String) (v : Scalar)
  | list (origin : Option String) (items : List Tree)
  | table (origin : Option String) (members : List (String × Tree))

namespace Tree

/-- What stands where nobody has put anything. -/
def nothing : Tree := .scalar none .nothing

/-- The table without members. -/
def empty : Tree := .table none []

/-- The source of a value. -/
def origin : Tree → Option String
  | .scalar origin _ | .list origin _ | .table origin _ => origin

/-- Changes the member of a name, which is added at the end if it is not there. -/
def changeMember (key : String) (change : Tree → Tree) : List (String × Tree) → List (String × Tree)
  | [] => [(key, change nothing)]
  | (k, t) :: rest => if k = key then (k, change t) :: rest else (k, t) :: changeMember key change rest

/-- A value as a table: an empty one if it is none. -/
def asTable : Tree → Option String × List (String × Tree)
  | .table origin members => (origin, members)
  | _ => (none, [])

/-- A value as a list: an empty one if it is none. -/
def asList : Tree → Option String × List Tree
  | .list origin items => (origin, items)
  | _ => (none, [])

mutual

/-- A base with a value laid over it. -/
def merge (base : Tree) : Tree → Tree
  | .table _ members => .table base.asTable.1 (mergeMembers base.asTable.2 members)
  | .list origin items => .list origin items
  | .scalar origin v => .scalar origin v

/-- Members with others laid over them, each over that of its name. -/
def mergeMembers (base : List (String × Tree)) : List (String × Tree) → List (String × Tree)
  | [] => base
  | (key, t) :: rest => mergeMembers (changeMember key (fun old => merge old t) base) rest

end

/-! ## Paths -/

/-- A step from a value to a part of it. -/
inductive Step
  | member (name : String)
  /-- The item of a list; a negative index counts from the end. -/
  | item (index : Int)
  deriving DecidableEq

/-- Changes an item of a list. The list grows if there is no such item, at its end or, for a negative index, at its
front. -/
def changeItem (index : Int) (change : Tree → Tree) (items : List Tree) : List Tree :=
  if 0 ≤ index then
    let items := items ++ List.replicate (index.toNat + 1 - items.length) nothing
    items.modify index.toNat change
  else
    let items := List.replicate (index.natAbs - items.length) nothing ++ items
    items.modify (items.length - index.natAbs) change

/-- Changes the value at the end of a path. What stands in its way is replaced by tables and lists. -/
def changeAt (change : Tree → Tree) : List Step → Tree → Tree
  | [], t => change t
  | .member name :: path, t =>
    let (origin, members) := t.asTable
    .table origin (changeMember name (changeAt change path) members)
  | .item index :: path, t =>
    let (origin, items) := t.asList
    .list origin (changeItem index (changeAt change path) items)

/-- A character of a name in a path. -/
def isNameChar (c : Char) : Bool := c.isAlphanum || c = '_' || c = '-'

/-- The index that a text between brackets writes, with blanks around it. -/
def index? (s : List Char) : Option Int :=
  let isSpace (c : Char) : Bool := c = ' ' || c = '\t'
  let body := ((s.dropWhile isSpace).reverse.dropWhile isSpace).reverse
  match body with
  | '+' :: _ => none
  | _ => Decimal.int64? body

/-- The steps after the first name of a path: names after dots, and indices in brackets; in at most `fuel` steps. -/
def stepsFrom : (fuel : Nat) → List Char → Option (List Step)
  | _, [] => some []
  | 0, _ => none
  | fuel + 1, '.' :: rest =>
    let name := rest.takeWhile isNameChar
    if name.isEmpty then none
    else (stepsFrom fuel (rest.drop name.length)).map (.member (String.ofList name) :: ·)
  | fuel + 1, '[' :: rest =>
    match Text.cutAt? ']' rest with
    | none => none
    | some (inner, rest) =>
      match index? inner with
      | none => none
      | some index => (stepsFrom fuel rest).map (.item index :: ·)
  | _, _ => none

/-- The path that a key writes; a key that writes none is a name. -/
def pathOf (key : String) : List Step :=
  let s := key.toList
  let name := s.takeWhile isNameChar
  match stepsFrom s.length (s.drop name.length) with
  | some steps => if name.isEmpty then [.member key] else .member (String.ofList name) :: steps
  | none => [.member key]

/-- A value put at the path of a key, over what is there. -/
def put (t : Tree) (key : String) (v : Tree) : Tree := t.changeAt (fun old => old.merge v) (pathOf key)

/-- What a source says, laid over a tree. -/
def putAll (t : Tree) (entries : List (String × Tree)) : Tree := entries.foldl (fun t (key, v) => t.put key v) t

end Tree

end Gatehouse.Settings
