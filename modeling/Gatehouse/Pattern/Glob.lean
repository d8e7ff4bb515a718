import Gatehouse.Pattern.Regex
import Gatehouse.Text.Utf8

/-!
# Globs

Path patterns with `?`, `*`, `**`, classes and alternatives in braces. Only `**` crosses a slash. A glob is turned
into a regular expression over bytes: a text is matched as the characters U+0000 to U+00FF of its bytes.
-/

namespace Gatehouse.Pattern

/-- A part of a glob. -/
inductive GlobPart
  | literal (c : Char)
  /-- One byte other than a slash. -/
  | any
  /-- Bytes other than slashes. -/
  | anyRun
  /-- `**` at the start. -/
  | leading
  /-- `**` after a slash, at the end. -/
  | trailing
  /-- `**` between slashes. -/
  | between
  | bytes (negated : Bool) (ranges : List (Char × Char))
  | choice (branches : List (List GlobPart))

namespace Glob

/-- A glob that is being read: the branches under way, each with its parts, the innermost first and its parts last
first; for each open brace, innermost first, how many branches there were before it; and the last character read. -/
structure Draft where
  branches : List (List GlobPart)
  openings : List Nat
  last : Option Char

/-- The draft of nothing. -/
def Draft.start : Draft := ⟨[[]], [], none⟩

/-- The draft with one more part. -/
def Draft.push? (d : Draft) (part : GlobPart) : Option Draft :=
  match d.branches with
  | [] => none
  | branch :: rest => some { d with branches := (part :: branch) :: rest }

/-- The draft with two parts for any bytes but slashes, as `**` is read where it is no part of its own. -/
def Draft.pushRuns? (d : Draft) : Option Draft := (d.push? .anyRun).bind (·.push? .anyRun)

/-- Closes a brace: its branches become one part. -/
def Draft.close? (d : Draft) : Option Draft :=
  match d.openings with
  | [] => none
  | before :: openings =>
    let count := d.branches.length - before
    let closed := (d.branches.take count).reverse.map (·.reverse)
    Draft.push? { d with branches := d.branches.drop count, openings } (.choice closed)

/-- The parts of a class up to its closing bracket. The first character belongs to the class whatever it is, a dash
between two characters makes a range, and ranges are held last first. -/
def readClass (ranges : List (Char × Char)) (first inRange : Bool) : List Char → Option (List (Char × Char) × List Char)
  | [] => none
  | c :: rest =>
    if c = ']' && !first then some ((if inRange then ('-', '-') :: ranges else ranges).reverse, rest)
    else if c = '-' && !first && !inRange then readClass ranges false true rest
    else
      match ranges with
      | (a, b) :: others =>
        if inRange then
          if a ≤ c then readClass ((a, c) :: others) false false rest else none
        else readClass ((c, c) :: (a, b) :: others) false false rest
      | [] => readClass [(c, c)] false false rest

/-- A class, after its opening bracket. -/
def readClassPart (s : List Char) : Option (GlobPart × List Char) :=
  let (negated, s) := match s with
    | '!' :: rest | '^' :: rest => (true, rest)
    | _ => (false, s)
  (readClass [] true false s).map fun (ranges, rest) => (.bytes negated ranges, rest)

/-- Reads `**`, the character before it being `before`, and what belongs to it of the text after it. -/
def readStars (d : Draft) (before : Option Char) (s : List Char) : Option (Draft × List Char) :=
  let asRuns : Option (Draft × List Char) := d.pushRuns?.map fun d => (d, s)
  let inBranch : Bool := 2 ≤ d.branches.length
  match d.branches with
  | [] => none
  | [] :: _ =>
    match s with
    | [] => (d.push? .leading).map fun d => (d, [])
    | '/' :: rest => (d.push? .leading).map fun d => ({ d with last := some '/' }, rest)
    | _ => asRuns
  | (part :: branch) :: branches =>
    let afterSlash : Bool := before = some '/' || (inBranch && (before = some ',' || before = some '{'))
    let replaced (new : GlobPart) : Draft :=
      let new := match part with
        | .leading => .leading
        | .trailing => .trailing
        | _ => new
      { d with branches := (new :: branch) :: branches }
    if !afterSlash then asRuns
    else
      match s with
      | [] => some (replaced .trailing, [])
      | '/' :: rest => some ({ replaced .between with last := some '/' }, rest)
      | c :: _ => if inBranch && (c = ',' || c = '}') then some (replaced .trailing, s) else asRuns

/-- Reads a glob, in at most `fuel` steps. -/
def read : (fuel : Nat) → Draft → List Char → Option (List GlobPart)
  | 0, _, _ => none
  | fuel + 1, d, s =>
    match s with
    | [] =>
      match d.branches with
      | [branch] => some branch.reverse
      | _ => none
    | c :: rest =>
      let before := d.last
      let d := { d with last := some c }
      match c with
      | '?' => (d.push? .any).bind (read fuel · rest)
      | '*' =>
        match rest with
        | '*' :: rest =>
          match readStars d before rest with
          | some (d, rest) => read fuel d rest
          | none => none
        | _ => (d.push? .anyRun).bind (read fuel · rest)
      | '[' =>
        match readClassPart rest with
        | some (part, rest) => ({ d with last := some ']' }.push? part).bind (read fuel · rest)
        | none => none
      | '{' =>
        read fuel { d with branches := [] :: d.branches, openings := d.branches.length :: d.openings } rest
      | '}' => d.close?.bind (read fuel · rest)
      | ',' =>
        if d.openings.isEmpty then (d.push? (.literal ',')).bind (read fuel · rest)
        else read fuel { d with branches := [] :: d.branches } rest
      | '\\' =>
        match rest with
        | [] => none
        | c :: rest => ({ d with last := some c }.push? (.literal c)).bind (read fuel · rest)
      | c => (d.push? (.literal c)).bind (read fuel · rest)

/-- The byte values of a character. -/
def points (c : Char) : List Nat := (Text.Utf8.encodeChar c).map (·.toNat)

/-- The byte ranges of a range of characters. Its ends are written byte by byte, so the range proper lies between the
last byte of one and the first byte of the other. -/
def byteRanges (first last : Char) : List (Nat × Nat) :=
  let single (n : Nat) : Nat × Nat := (n, n)
  if first = last then (points first).map single
  else
    match (points first).reverse, points last with
    | a :: before, b :: after => before.reverse.map single ++ (a, b) :: after.map single
    | _, _ => []

/-- One byte other than a slash. -/
def notSlash : Regex := .set (.compl (.single '/'))

/-- Any bytes. -/
def anything : Regex := .star (.set (.compl (.runs [])))

/-- A slash. -/
def slash : Regex := .set (.single '/')

mutual

/-- The expression of a part. A part of alternatives leaves out those that say nothing, and says nothing when there
are no others. -/
def partRegex : GlobPart → Option Regex
  | .literal c => some (Regex.sequence ((points c).map fun n => .set (.runs [(n, n)])))
  | .any => some notSlash
  | .anyRun => some (.star notSlash)
  | .leading => some (.alt slash.optional (.cat anything slash))
  | .trailing => some (.cat slash anything)
  | .between => some (.alt slash (.cat slash (.cat anything slash)))
  | .bytes negated ranges =>
    let set := CharSet.runs (ranges.flatMap fun r => byteRanges r.1 r.2)
    some (.set (if negated then .compl set else set))
  | .choice branches =>
    match branchRegexes branches with
    | [] => none
    | rs => some (Regex.oneOf rs)

/-- The expressions of the alternatives that say something. -/
def branchRegexes : List (List GlobPart) → List Regex
  | [] => []
  | branch :: rest =>
    match partsRegex branch with
    | none => branchRegexes rest
    | some r => r :: branchRegexes rest

/-- The expression of parts one after another. -/
def partsRegex : List GlobPart → Option Regex
  | [] => none
  | part :: rest =>
    match partRegex part, partsRegex rest with
    | none, r => r
    | some r, none => some r
    | some r, some s => some (.cat r s)

end

/-- The expression of a whole glob; `**` alone matches everything. -/
def wholeRegex (parts : List GlobPart) : Regex :=
  let body := match parts with
    | [.leading] => anything
    | _ => (partsRegex parts).getD .empty
  .cat (.look .textStart) (.cat body (.look .textEnd))

end Glob

/-- Whether a path matches a glob; `none` when the pattern is no glob. -/
def matchesGlob (path pattern : List Char) : Option Bool :=
  (Glob.read (pattern.length + 1) .start pattern).map fun parts =>
    (Glob.wholeRegex parts).isMatch ((Text.Utf8.encode path).map fun b => Char.ofNat b.toNat)

end Gatehouse.Pattern
