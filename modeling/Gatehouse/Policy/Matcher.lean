import Gatehouse.Error
import Gatehouse.Pattern.Glob
import Gatehouse.Pattern.Key

/-!
# Matchers

The expression by which a policy model decides whether a rule is about a request. Its values are texts, truth values
and integers; it names the fields of request and rule, compares them, and calls functions that match patterns. The
operands of `&&` and `||` are evaluated from the left and no further than needed.
-/

namespace Gatehouse.Policy

/-- The operators between two operands. -/
inductive BinaryOp
  | or
  | and
  | eq
  | ne
  | lt
  | le
  | gt
  | ge
  | add
  | sub
  | mul
  | div
  | rem
  deriving DecidableEq

/-- How tightly an operator binds. -/
def BinaryOp.level : BinaryOp → Nat
  | .or => 1
  | .and => 2
  | .eq | .ne => 3
  | .lt | .le | .gt | .ge => 4
  | .add | .sub => 5
  | .mul | .div | .rem => 6

/-- A matcher. -/
inductive Matcher
  | text (s : String)
  | bool (b : Bool)
  | int (n : Int)
  | field (name : String)
  | not (m : Matcher)
  | neg (m : Matcher)
  | binary (op : BinaryOp) (left right : Matcher)
  | call (function : String) (args : List Matcher)

namespace Matcher

/-! ## Reading -/

/-- A token of a matcher. -/
inductive Token
  | text (s : String)
  | number (n : Nat)
  | name (s : String)
  | op (op : BinaryOp)
  | not
  | comma
  | opening
  | closing

/-- A character that a name may begin with. -/
def startsName (c : Char) : Bool := c.isAlpha || c = '_'

/-- A character of a name after its first. -/
def continuesName (c : Char) : Bool := startsName c || c.isDigit

/-- The rest of a comment in which `depth` more comments are open. -/
def skipComment (depth : Nat) : List Char → List Char
  | [] => []
  | '*' :: '/' :: rest =>
    match depth with
    | 0 => rest
    | depth + 1 => skipComment depth rest
  | '/' :: '*' :: rest => skipComment (depth + 1) rest
  | _ :: rest => skipComment depth rest

/-- What an escape stands for, after its backslash. -/
def readEscape : List Char → Option (Char × List Char)
  | '\\' :: rest => some ('\\', rest)
  | '"' :: rest => some ('"', rest)
  | 't' :: rest => some ('\t', rest)
  | 'n' :: rest => some ('\n', rest)
  | 'r' :: rest => some ('\r', rest)
  | c :: rest =>
    let count := if c = 'x' then 2 else if c = 'u' then 4 else if c = 'U' then 8 else 0
    if count = 0 || rest.length < count then none
    else (Encoding.Hex.character? (rest.take count)).map fun c => (c, rest.drop count)
  | [] => none

/-- The text up to the closing quote, with its escapes resolved, and what follows the quote; in at most `fuel` steps. -/
def readText : (fuel : Nat) → (done : List Char) → List Char → Option (String × List Char)
  | 0, _, _ => none
  | _, _, [] => none
  | fuel + 1, done, c :: rest =>
    if c = '"' then
      match rest with
      | '"' :: rest => readText fuel ('"' :: done) rest
      | _ => some (String.ofList done.reverse, rest)
    else if c = '\n' then none
    else if c = '\\' then
      match readEscape rest with
      | some (c, rest) => readText fuel (c :: done) rest
      | none => none
    else readText fuel (c :: done) rest

/-- The tokens of a text, in at most `fuel` steps. -/
def tokens? : (fuel : Nat) → List Char → Option (List Token)
  | 0, _ => none
  | _, [] => some []
  | fuel + 1, c :: rest =>
    let one (t : Token) (rest : List Char) : Option (List Token) := (tokens? fuel rest).map (t :: ·)
    match c, rest with
    | '/', '/' :: rest => tokens? fuel (rest.dropWhile (· ≠ '\n'))
    | '/', '*' :: rest => tokens? fuel (skipComment 0 rest)
    | '|', '|' :: rest => one (.op .or) rest
    | '&', '&' :: rest => one (.op .and) rest
    | '=', '=' :: rest => one (.op .eq) rest
    | '!', '=' :: rest => one (.op .ne) rest
    | '<', '=' :: rest => one (.op .le) rest
    | '>', '=' :: rest => one (.op .ge) rest
    | '<', rest => one (.op .lt) rest
    | '>', rest => one (.op .gt) rest
    | '+', rest => one (.op .add) rest
    | '-', rest => one (.op .sub) rest
    | '*', rest => one (.op .mul) rest
    | '/', rest => one (.op .div) rest
    | '%', rest => one (.op .rem) rest
    | '!', rest => one .not rest
    | ',', rest => one .comma rest
    | '(', rest => one .opening rest
    | ')', rest => one .closing rest
    | '"', rest =>
      match readText (rest.length + 1) [] rest with
      | some (s, rest) => one (.text s) rest
      | none => none
    | c, rest =>
      if Text.isBlank c then tokens? fuel rest
      else if c.isDigit then
        let digits := c :: rest.takeWhile Char.isDigit
        one (.number (digits.foldl (fun n d => n * 10 + (d.toNat - '0'.toNat)) 0)) (rest.dropWhile Char.isDigit)
      else if startsName c then
        one (.name (String.ofList (c :: rest.takeWhile continuesName))) (rest.dropWhile continuesName)
      else none

mutual

/-- Reads operands joined by operators of at least a level, in at most `fuel` steps. -/
def readLevel : (fuel : Nat) → (level : Nat) → List Token → Option (Matcher × List Token)
  | 0, _, _ => none
  | fuel + 1, level, ts =>
    match readOperand fuel ts with
    | some (left, ts) => readRest fuel level left ts
    | none => none

/-- Reads the operators of at least a level and their right operands after a left one. -/
def readRest : (fuel : Nat) → (level : Nat) → Matcher → List Token → Option (Matcher × List Token)
  | 0, _, _, _ => none
  | fuel + 1, level, left, ts =>
    match ts with
    | .op op :: rest =>
      if level ≤ op.level then
        match readLevel fuel (op.level + 1) rest with
        | some (right, rest) => readRest fuel level (.binary op left right) rest
        | none => none
      else some (left, ts)
    | _ => some (left, ts)

/-- Reads one operand. -/
def readOperand : (fuel : Nat) → List Token → Option (Matcher × List Token)
  | 0, _ => none
  | fuel + 1, ts =>
    match ts with
    | .not :: rest => (readOperand fuel rest).map fun (m, rest) => (.not m, rest)
    | .op .sub :: rest => (readOperand fuel rest).map fun (m, rest) => (.neg m, rest)
    | .text s :: rest => some (.text s, rest)
    | .number n :: rest => some (.int n, rest)
    | .opening :: rest =>
      match readLevel fuel 0 rest with
      | some (m, .closing :: rest) => some (m, rest)
      | _ => none
    | .name f :: .opening :: .closing :: rest => some (.call f [], rest)
    | .name f :: .opening :: rest => (readArgs fuel rest).map fun (args, rest) => (.call f args, rest)
    | .name "true" :: rest => some (.bool true, rest)
    | .name "false" :: rest => some (.bool false, rest)
    | .name x :: rest => some (.field x, rest)
    | _ => none

/-- Reads the arguments of a call, up to its closing parenthesis. -/
def readArgs : (fuel : Nat) → List Token → Option (List Matcher × List Token)
  | 0, _ => none
  | fuel + 1, ts =>
    match readLevel fuel 0 ts with
    | some (m, .closing :: rest) => some ([m], rest)
    | some (m, .comma :: rest) => (readArgs fuel rest).map fun (args, rest) => (m :: args, rest)
    | _ => none

end

/-- The matcher that a text writes, if it writes one. -/
def ofText? (text : List Char) : Option Matcher :=
  match tokens? (text.length + 1) text with
  | none => none
  | some ts =>
    match readLevel (4 * ts.length + 4) 0 ts with
    | some (m, []) => some m
    | _ => none

/-! ## Evaluation -/

/-- A value of a matcher. -/
inductive Value
  | text (s : String)
  | bool (b : Bool)
  | int (n : Int)
  deriving DecidableEq

/-- What the names of a matcher stand for. -/
structure Scope where
  field : String → Option String
  call : String → List Value → Except PolicyFault Value

/-- The evaluation error. -/
def noValue : Except PolicyFault Value := .error (.error .evaluation)

/-- The order of two values, when they are of one kind. -/
def Value.compare? : Value → Value → Option Ordering
  | .text s, .text t => some (compare s t)
  | .bool a, .bool b => some (compare a b)
  | .int m, .int n => some (compare m n)
  | _, _ => none

/-- The value of an operator that needs both operands. Values of different kinds are different and stand in no
order, and arithmetic is for integers, but that texts are added by writing one after the other. -/
def operate (op : BinaryOp) (a b : Value) : Except PolicyFault Value :=
  let holds (p : Ordering → Bool) : Except PolicyFault Value := .ok (.bool ((a.compare? b).any p))
  match op, a, b with
  | .or, .bool a, .bool b => .ok (.bool (a || b))
  | .and, .bool a, .bool b => .ok (.bool (a && b))
  | .eq, a, b => .ok (.bool (decide (a = b)))
  | .ne, a, b => .ok (.bool (decide (a ≠ b)))
  | .lt, _, _ => holds Ordering.isLT
  | .le, _, _ => holds Ordering.isLE
  | .gt, _, _ => holds Ordering.isGT
  | .ge, _, _ => holds Ordering.isGE
  | .add, .text s, .text t => .ok (.text (s ++ t))
  | .add, .int m, .int n => .ok (.int (m + n))
  | .sub, .int m, .int n => .ok (.int (m - n))
  | .mul, .int m, .int n => .ok (.int (m * n))
  | .div, .int m, .int n => if n = 0 then noValue else .ok (.int (Int.tdiv m n))
  | .rem, .int m, .int n => if n = 0 then noValue else .ok (.int (Int.tmod m n))
  | _, _, _ => noValue

mutual

/-- The value of a matcher. -/
def eval (scope : Scope) : Matcher → Except PolicyFault Value
  | .text s => .ok (.text s)
  | .bool b => .ok (.bool b)
  | .int n => .ok (.int n)
  | .field name =>
    match scope.field name with
    | some s => .ok (.text s)
    | none => noValue
  | .not m =>
    match m.eval scope with
    | .ok (.bool b) => .ok (.bool !b)
    | .ok _ => noValue
    | .error e => .error e
  | .neg m =>
    match m.eval scope with
    | .ok (.int n) => .ok (.int (-n))
    | .ok _ => noValue
    | .error e => .error e
  | .binary op left right =>
    match left.eval scope with
    | .error e => .error e
    | .ok a =>
      if op = .and ∧ a = .bool false ∨ op = .or ∧ a = .bool true then .ok a
      else if (op = .and ∨ op = .or) ∧ a ≠ .bool true ∧ a ≠ .bool false then noValue
      else
        match right.eval scope with
        | .error e => .error e
        | .ok b => operate op a b
  | .call f args =>
    match evalArgs scope args with
    | .error e => .error e
    | .ok values => scope.call f values

/-- The values of the arguments of a call, from the left. -/
def evalArgs (scope : Scope) : List Matcher → Except PolicyFault (List Value)
  | [] => .ok []
  | m :: rest =>
    match m.eval scope with
    | .error e => .error e
    | .ok v =>
      match evalArgs scope rest with
      | .error e => .error e
      | .ok vs => .ok (v :: vs)

end

/-- The decision of a matcher. -/
def holds (scope : Scope) (m : Matcher) : Except PolicyFault Bool :=
  match m.eval scope with
  | .ok (.bool b) => .ok b
  | .ok _ => .error (.error .evaluation)
  | .error e => .error e

variable [Pattern.RegexEngine]

/-- The functions that match a key, the first argument, against a pattern. -/
def keyFunction? (name : String) : Option (List Char → List Char → Option Bool) :=
  match name with
  | "keyMatch" => some Pattern.matchesStar
  | "keyMatch2" => some Pattern.matchesColons
  | "keyMatch3" => some Pattern.matchesBraces
  | "keyMatch5" => some Pattern.matchesBracesBeforeQuery
  | "regexMatch" => some Pattern.findsRegex
  | "globMatch" => some Pattern.matchesGlob
  | _ => none

/-- The value of a function that matches patterns. -/
def callKeyFunction (name : String) (args : List Value) : Except PolicyFault Value :=
  match keyFunction? name, args with
  | some f, [.text key, .text pattern] =>
    match f key.toList pattern.toList with
    | some b => .ok (.bool b)
    | none => .error .crash
  | _, _ => noValue

end Matcher

end Gatehouse.Policy
