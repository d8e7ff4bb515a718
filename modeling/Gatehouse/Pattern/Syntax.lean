import Gatehouse.Encoding.Hex
import Gatehouse.Pattern.Regex

/-!
# The syntax of regular expressions

Reads an expression from its text: alternatives of sequences of repeated atoms, with classes, groups, flags and
assertions. What is not an expression is refused, and so are classes of Unicode properties, for which there are no
tables here. Captures are only checked for their names, and a lazy repetition is read as a greedy one, as neither
changes whether a text is matched. Syntax that is nested too deep is refused (`depthLimit`), and of the size of an
expression only what its counted repetitions need at least is held against the limit (`stateLimit`).
-/

namespace Gatehouse.Pattern.Syntax

/-! ## Nesting -/

/-- The number of levels at which syntax may be nested. -/
def depthLimit : Nat := 250

/-- What has been read, with the number of levels of its syntax. Groups, repetitions and classes are levels, and so are
sequences, alternatives and the items of classes where there is more than one. -/
structure Nested (α : Type) where
  value : α
  depth : Nat

/-- What is read without a level of its own. -/
def Nested.flat {α : Type} (a : α) : Nested α := ⟨a, 0⟩

/-- One level more, around what has been read. -/
def Nested.within {α : Type} (r : Nested α) (f : α → α) : Nested α := ⟨f r.value, r.depth + 1⟩

/-- The levels of some parts together. -/
def jointDepth : List Nat → Nat
  | [] => 0
  | [depth] => depth
  | depths => depths.foldr max 0 + 1

/-- Some expressions made into one. -/
def Nested.join (f : List Regex → Regex) (rs : List (Nested Regex)) : Nested Regex :=
  ⟨f (rs.map Nested.value), jointDepth (rs.map Nested.depth)⟩

/-! ## Modes -/

/-- The flags under which a part of an expression is read. -/
structure Mode where
  ignoreCase : Bool := false
  multiLine : Bool := false
  dotMatchesAll : Bool := false
  /-- Blanks and comments are passed over. -/
  spaced : Bool := false
  /-- A carriage return ends a line, with a line feed or without. -/
  crlf : Bool := false
  /-- Classes, cases and words are those of ASCII. What would then match a byte that is no character is refused. -/
  ascii : Bool := false

/-- The characters that a dot does not match. -/
def Mode.lineBreaks (mode : Mode) : CharSet :=
  if mode.dotMatchesAll then .runs [] else if mode.crlf then .runs [(0x0A, 0x0A), (0x0D, 0x0D)] else .single '\n'

/-- A set with what differs from its members in case alone, where the mode says so. -/
def Mode.fold (mode : Mode) (s : CharSet) : CharSet :=
  if mode.ignoreCase then if mode.ascii then .foldedAscii s else .folded s else s

/-- A set that is complete in a mode. All classes that ASCII texts write hold either every character beyond ASCII or
none, so that one of them is tried. -/
def Mode.accept? (mode : Mode) (s : CharSet) : Option CharSet :=
  if mode.ascii && s.containsPoint 0x80 then none else some s

/-- A decimal digit. -/
def isDigit (c : Char) : Bool := '0' ≤ c && c ≤ '9'

/-- Passes over blanks and comments where the mode says so, in at most `fuel` comments. -/
def skipSpace (mode : Mode) : (fuel : Nat) → List Char → List Char
  | 0, s => s
  | fuel + 1, s =>
    if mode.spaced then
      match Text.trimStart s with
      | '#' :: rest => skipSpace mode fuel (rest.dropWhile (· ≠ '\n'))
      | rest => rest
    else s

/-- The set of a character in a mode. -/
def charSet (mode : Mode) (c : Char) : CharSet := mode.fold (.single c)

/-! ## Escapes -/

/-- What an escape stands for. -/
inductive Escape
  | char (c : Char)
  | set (s : CharSet)
  | look (a : Assertion)

/-- A character by its code point: so many digits, or digits in braces. -/
def readHex (count : Nat) (s : List Char) : Option (Escape × List Char) :=
  let (digits, rest) := match s with
    | '{' :: body =>
      match Text.cutAt? '}' body with
      | some (digits, rest) => (digits, rest)
      | none => ([], s)
    | _ => if s.length < count then ([], s) else (s.take count, s.drop count)
  (Encoding.Hex.character? digits).map fun c => (.char c, rest)

/-- A word assertion, after its `\b`; a name in braces makes it one of the halves. -/
def readWordEdge (mode : Mode) (s : List Char) : Option (Escape × List Char) :=
  let named (name : String) (a : Assertion) : Option (Escape × List Char) :=
    let opening := '{' :: name.toList ++ ['}']
    if opening.isPrefixOf s then some (.look a, s.drop opening.length) else none
  match s with
  | '{' :: c :: _ =>
    if ('a' ≤ c ∧ c ≤ 'z') ∨ ('A' ≤ c ∧ c ≤ 'Z') ∨ c = '-' then
      ((named "start" (.wordStart mode.ascii)).or (named "end" (.wordEnd mode.ascii))).or
        ((named "start-half" (.wordStartHalf mode.ascii)).or (named "end-half" (.wordEndHalf mode.ascii)))
    else some (.look (.wordEdge mode.ascii), s)
  | _ => some (.look (.wordEdge mode.ascii), s)

/-- An escape for one of two sets and, in upper case, for its complement. -/
def readClassEscape (mode : Mode) (negated : Bool) (unicode ascii : CharSet) (rest : List Char) :
    Option (Escape × List Char) :=
  let s := if mode.ascii then ascii else unicode
  (mode.accept? (if negated then .compl s else s)).map fun s => (.set s, rest)

/-- A character by two digits. In ASCII mode they write a byte, which must be a character alone. -/
def readByte (mode : Mode) (s : List Char) : Option (Escape × List Char) :=
  match readHex 2 s with
  | some (.char c, rest) =>
    if mode.ascii && s.head? ≠ some '{' && 0x80 ≤ c.toNat then none else some (.char c, rest)
  | e => e

/-- An escape, after its backslash. -/
def readEscape (mode : Mode) (s : List Char) : Option (Escape × List Char) :=
  match s with
  | [] => none
  | c :: rest =>
    match c with
    | 'x' => readByte mode rest
    | 'u' => readHex 4 rest
    | 'U' => readHex 8 rest
    | 'd' => readClassEscape mode false .digits .asciiDigits rest
    | 'D' => readClassEscape mode true .digits .asciiDigits rest
    | 's' => readClassEscape mode false .blanks .asciiBlanks rest
    | 'S' => readClassEscape mode true .blanks .asciiBlanks rest
    | 'w' => readClassEscape mode false .word .asciiWord rest
    | 'W' => readClassEscape mode true .word .asciiWord rest
    | 'a' => some (.char '\x07', rest)
    | 'f' => some (.char '\x0c', rest)
    | 't' => some (.char '\t', rest)
    | 'n' => some (.char '\n', rest)
    | 'r' => some (.char '\r', rest)
    | 'v' => some (.char '\x0b', rest)
    | 'A' => some (.look .textStart, rest)
    | 'z' => some (.look .textEnd, rest)
    | 'b' => readWordEdge mode rest
    | 'B' => some (.look (.noWordEdge mode.ascii), rest)
    | '<' => some (.look (.wordStart mode.ascii), rest)
    | '>' => some (.look (.wordEnd mode.ascii), rest)
    | c => if c.toNat < 0x80 && !c.isAlphanum then some (.char c, rest) else none

/-! ## Classes -/

/-- The ASCII classes by name. -/
def asciiClass? (name : String) : Option CharSet :=
  match name with
  | "alnum" => some (.runs [(0x30, 0x39), (0x41, 0x5A), (0x61, 0x7A)])
  | "alpha" => some (.runs [(0x41, 0x5A), (0x61, 0x7A)])
  | "ascii" => some (.runs [(0, 0x7F)])
  | "blank" => some (.runs [(0x09, 0x09), (0x20, 0x20)])
  | "cntrl" => some (.runs [(0, 0x1F), (0x7F, 0x7F)])
  | "digit" => some .asciiDigits
  | "graph" => some (.runs [(0x21, 0x7E)])
  | "lower" => some (.runs [(0x61, 0x7A)])
  | "print" => some (.runs [(0x20, 0x7E)])
  | "punct" => some (.runs [(0x21, 0x2F), (0x3A, 0x40), (0x5B, 0x60), (0x7B, 0x7E)])
  | "space" => some .asciiBlanks
  | "upper" => some (.runs [(0x41, 0x5A)])
  | "word" => some .asciiWord
  | "xdigit" => some (.runs [(0x30, 0x39), (0x41, 0x46), (0x61, 0x66)])
  | _ => none

/-- An ASCII class such as `[:alpha:]`, after its opening bracket. -/
def readAsciiClass? (s : List Char) : Option (CharSet × List Char) :=
  match s with
  | ':' :: body => do
    let (negated, body) := match body with
      | '^' :: rest => (true, rest)
      | _ => (false, body)
    let (name, rest) ← Text.cutAt? ':' body
    match rest with
    | ']' :: rest => (asciiClass? (String.ofList name)).map fun set => (if negated then .compl set else set, rest)
    | _ => none
  | _ => none

/-- How two parts of a class are combined. -/
inductive ClassOp
  | both
  | butNot
  | either

/-- The combination of two parts of a class. -/
def ClassOp.apply : ClassOp → CharSet → CharSet → CharSet
  | .both, s, t => .inter s t
  | .butNot, s, t => .inter s (.compl t)
  | .either, s, t => CharSet.symmetricDifference s t

/-- A class that is being read: the combined parts before the last operator, and the part after it. -/
structure ClassDraft where
  combined : Option (Nested CharSet × ClassOp) := none
  part : CharSet := .runs []
  /-- The levels of the items in the part. -/
  depths : List Nat := []

/-- The set of a draft. -/
def ClassDraft.set (mode : Mode) (d : ClassDraft) : Nested CharSet :=
  let part := mode.fold d.part
  let depth := jointDepth d.depths
  match d.combined with
  | some (s, op) => ⟨op.apply s.value part, max s.depth depth + 1⟩
  | none => ⟨part, depth⟩

/-- The draft with one more item in its last part. -/
def ClassDraft.add (d : ClassDraft) (s : Nested CharSet) : ClassDraft :=
  { d with part := .union d.part s.value, depths := s.depth :: d.depths }

/-- The draft with an operator after it. -/
def ClassDraft.combine (mode : Mode) (d : ClassDraft) (op : ClassOp) : ClassDraft :=
  { combined := some (d.set mode, op) }

/-- The draft with the hyphens at the beginning of a class, in at most `fuel` of them; they stand for themselves. -/
def readHyphens (mode : Mode) : (fuel : Nat) → ClassDraft → List Char → ClassDraft × List Char
  | fuel + 1, draft, '-' :: rest =>
    readHyphens mode fuel (draft.add (.flat (.single '-'))) (skipSpace mode rest.length rest)
  | _, draft, s => (draft, s)

/-- One end of a range, or an item that is no range. In ASCII mode a character must be of ASCII here. -/
def readClassItem (mode : Mode) (s : List Char) : Option (Escape × List Char) :=
  let item : Option (Escape × List Char) := match s with
    | [] => none
    | '\\' :: rest => readEscape mode rest
    | c :: rest => some (.char c, rest)
  match item with
  | some (.char c, rest) => if mode.ascii && 0x80 ≤ c.toNat then none else some (.char c, rest)
  | item => item

/-- A single item or a range of characters. -/
def readClassRange (mode : Mode) (s : List Char) : Option (CharSet × List Char) := do
  let (item, rest) ← readClassItem mode s
  let rest := skipSpace mode rest.length rest
  let single : Option (CharSet × List Char) := match item with
    | .char c => some (.single c, rest)
    | .set set => some (set, rest)
    | .look _ => none
  match rest with
  | [] => none
  | '-' :: after =>
    let after := skipSpace mode after.length after
    match after with
    | [] => none
    | ']' :: _ | '-' :: _ => single
    | _ =>
      let (last, rest) ← readClassItem mode after
      match item, last with
      | .char a, .char b => if a ≤ b then some (.runs [(a.toNat, b.toNat)], rest) else none
      | _, _ => none
  | _ => single

mutual

/-- A class, after its opening bracket, in at most `fuel` steps. -/
def readClass (mode : Mode) : (fuel : Nat) → List Char → Option (Nested CharSet × List Char)
  | 0, _ => none
  | fuel + 1, s =>
    let s := skipSpace mode s.length s
    let (negated, s) := match s with
      | '^' :: rest => (true, skipSpace mode rest.length rest)
      | _ => (false, s)
    let (draft, s) := match s with
      | ']' :: rest => (({} : ClassDraft).add (.flat (.single ']')), rest)
      | _ => readHyphens mode s.length {} s
    (readClassItems mode fuel draft s).bind fun (set, rest) =>
      (mode.accept? (if negated then .compl set.value else set.value)).map fun accepted =>
        (set.within fun _ => accepted, rest)

/-- The items of a class up to its closing bracket, in at most `fuel` steps. -/
def readClassItems (mode : Mode) : (fuel : Nat) → ClassDraft → List Char → Option (Nested CharSet × List Char)
  | 0, _, _ => none
  | fuel + 1, draft, s =>
    match skipSpace mode s.length s with
    | [] => none
    | '[' :: rest =>
      match readAsciiClass? rest with
      | some (set, rest) => readClassItems mode fuel (draft.add (.flat set)) rest
      | none =>
        match readClass mode fuel rest with
        | some (set, rest) => readClassItems mode fuel (draft.add set) rest
        | none => none
    | ']' :: rest => some (draft.set mode, rest)
    | '&' :: '&' :: rest => readClassItems mode fuel (draft.combine mode .both) rest
    | '-' :: '-' :: rest => readClassItems mode fuel (draft.combine mode .butNot) rest
    | '~' :: '~' :: rest => readClassItems mode fuel (draft.combine mode .either) rest
    | s =>
      match readClassRange mode s with
      | some (set, rest) => readClassItems mode fuel (draft.add (.flat set)) rest
      | none => none

end

/-! ## Repetitions -/

/-- The largest number of states that an expression may have: as many as fit into 10 MiB, at 32 bytes each. -/
def stateLimit : Nat := 327680

/-- A number below 2 ^ 32 in a counted repetition, blanks around it. -/
def readCount (s : List Char) : Option (Option Nat × List Char) :=
  let s := Text.trimStart s
  let digits := s.takeWhile isDigit
  let rest := Text.trimStart (s.dropWhile isDigit)
  if digits.isEmpty then some (none, rest)
  else
    let n := digits.foldl (fun n c => n * 10 + (c.toNat - '0'.toNat)) 0
    if n < UInt32.size then some (some n, rest) else none

/-- The bounds of a counted repetition, after its opening brace. -/
def readBounds (mode : Mode) (s : List Char) : Option ((Nat × Option Nat) × List Char) := do
  let (low, rest) ← readCount (skipSpace mode s.length s)
  let low ← low
  match rest with
  | '}' :: rest => some ((low, some low), rest)
  | ',' :: rest =>
    match skipSpace mode rest.length rest with
    | '}' :: rest => some ((low, none), rest)
    | rest =>
      let (high, rest) ← readCount rest
      let high ← high
      match rest with
      | '}' :: rest => if low ≤ high then some ((low, some high), rest) else none
      | _ => none
  | _ => none

/-- The expression, at least `low` times and at most `high` times. -/
def counted (r : Regex) (low : Nat) : Option Nat → Regex
  | none => if low = 0 then .star r else .cat (r.times low) (.star r)
  | some high => if low = high then r.times low else .cat (r.times low) (r.upTo (high - low))

/-- The repetitions after an atom, in at most `fuel` steps. -/
def readRepeats (mode : Mode) : (fuel : Nat) → Nested Regex → List Char → Option (Nested Regex × List Char)
  | 0, _, _ => none
  | fuel + 1, r, s =>
    let lazily (rest : List Char) : List Char := match skipSpace mode rest.length rest with
      | '?' :: rest => rest
      | _ => rest
    match skipSpace mode s.length s with
    | '*' :: rest => readRepeats mode fuel (r.within .star) (lazily rest)
    | '+' :: rest => readRepeats mode fuel (r.within .plus) (lazily rest)
    | '?' :: rest => readRepeats mode fuel (r.within .optional) (lazily rest)
    | '{' :: rest =>
      match readBounds mode rest with
      | none => none
      | some ((low, high), rest) =>
        if stateLimit < r.value.leastStates * max low (high.getD 0) then none
        else readRepeats mode fuel (r.within (counted · low high)) (lazily rest)
    | rest => some (r, rest)

/-! ## Groups -/

/-- How a group begins. -/
inductive GroupStart
  | capture
  | named (name : List Char)
  /-- Flags for the group alone. -/
  | scoped (mode : Mode)
  /-- Flags for what follows in the group around. -/
  | flags (mode : Mode)

/-- One flag, set or cleared. -/
def setFlag? (mode : Mode) (on : Bool) (c : Char) : Option Mode :=
  match c with
  | 'i' => some { mode with ignoreCase := on }
  | 'm' => some { mode with multiLine := on }
  | 's' => some { mode with dotMatchesAll := on }
  | 'x' => some { mode with spaced := on }
  | 'R' => some { mode with crlf := on }
  | 'u' => some { mode with ascii := !on }
  | 'U' => some mode
  | _ => none

/-- Flags up to a colon or a closing parenthesis; `seen` have been read already. -/
def readFlags (mode : Mode) (on : Bool) (seen : List Char) : List Char → Option (GroupStart × List Char)
  | [] => none
  | ':' :: rest => if seen.head? = some '-' then none else some (.scoped mode, rest)
  | ')' :: rest => if seen.isEmpty || seen.head? = some '-' then none else some (.flags mode, rest)
  | c :: rest =>
    if c ∈ seen then none
    else if c = '-' then readFlags mode false (c :: seen) rest
    else (setFlag? mode on c).bind fun mode => readFlags mode on (c :: seen) rest

/-- Whether a text may name a capture. -/
def isCaptureName (s : List Char) : Bool :=
  let isLetter (c : Char) : Bool := c.isAlpha || c = '_'
  match s with
  | [] => false
  | c :: rest => isLetter c && rest.all fun c => isLetter c || isDigit c || c = '.' || c = '[' || c = ']'

/-- The name of a capture, up to its closing angle bracket. -/
def readName (s : List Char) : Option (GroupStart × List Char) := do
  let (name, rest) ← Text.cutAt? '>' s
  if isCaptureName name then some (.named name, rest) else none

/-- The beginning of a group, after its opening parenthesis. -/
def readGroupStart (mode : Mode) (s : List Char) : Option (GroupStart × List Char) :=
  match skipSpace mode s.length s with
  | '?' :: 'P' :: '<' :: rest => readName rest
  | '?' :: '<' :: rest =>
    match rest with
    | '=' :: _ | '!' :: _ => none
    | _ => readName rest
  | '?' :: '=' :: _ | '?' :: '!' :: _ => none
  | '?' :: rest => readFlags mode true [] rest
  | rest => some (.capture, rest)

/-! ## Expressions -/

/-- An expression, the capture names up to its end, and the text after it. -/
structure Parsed where
  regex : Nested Regex
  names : List (List Char)
  rest : List Char

/-- The expression of an escape. -/
def Escape.regex (mode : Mode) : Escape → Regex
  | .char c => .set (charSet mode c)
  | .set s => .set s
  | .look a => .look a

/-- An atom of one character or one class. -/
def readSimpleAtom (mode : Mode) (fuel : Nat) (s : List Char) : Option (Nested Regex × List Char) :=
  match s with
  | [] => none
  | '*' :: _ | '+' :: _ | '?' :: _ | '{' :: _ => none
  | '\\' :: rest => (readEscape mode rest).map fun (e, rest) => (.flat (e.regex mode), rest)
  | '[' :: rest => (readClass mode fuel rest).map fun (set, rest) => (⟨.set set.value, set.depth⟩, rest)
  | '.' :: rest => (mode.accept? (.compl mode.lineBreaks)).map fun set => (.flat (.set set), rest)
  | '^' :: rest => some (.flat (.look (if mode.multiLine then .lineStart mode.crlf else .textStart)), rest)
  | '$' :: rest => some (.flat (.look (if mode.multiLine then .lineEnd mode.crlf else .textEnd)), rest)
  | c :: rest => some (.flat (.set (charSet mode c)), rest)

/-- Alternatives up to a closing parenthesis or the end, in at most `fuel` steps: `done` are finished, `current` is
the sequence that is being read, last first. Flags are a part of it that matches the empty text. -/
def readAlternatives : (fuel : Nat) → Mode → (names : List (List Char)) → (done current : List (Nested Regex)) →
    List Char → Option Parsed
  | 0, _, _, _, _, _ => none
  | fuel + 1, mode, names, done, current, s =>
    let sequence := Nested.join .sequence current.reverse
    match skipSpace mode s.length s with
    | [] => some ⟨.join .oneOf (done ++ [sequence]), names, []⟩
    | ')' :: rest => some ⟨.join .oneOf (done ++ [sequence]), names, ')' :: rest⟩
    | '|' :: rest => readAlternatives fuel mode names (done ++ [sequence]) [] rest
    | '(' :: rest =>
      match readGroupStart mode rest with
      | none => none
      | some (.flags mode, rest) =>
        match skipSpace mode rest.length rest with
        | '*' :: _ | '+' :: _ | '?' :: _ | '{' :: _ => none
        | rest => readAlternatives fuel mode names done (.flat .empty :: current) rest
      | some (start, rest) =>
        let (inner, names, fresh) := match start with
          | .named name => (mode, name :: names, !names.contains name)
          | .scoped inner => (inner, names, true)
          | _ => (mode, names, true)
        if fresh then
          match readAlternatives fuel inner names [] [] rest with
          | some ⟨r, names, ')' :: rest⟩ =>
            match readRepeats mode fuel (r.within id) rest with
            | some (r, rest) => readAlternatives fuel mode names done (r :: current) rest
            | none => none
          | _ => none
        else none
    | s =>
      match readSimpleAtom mode fuel s with
      | none => none
      | some (r, rest) =>
        match readRepeats mode fuel r rest with
        | some (r, rest) => readAlternatives fuel mode names done (r :: current) rest
        | none => none

end Syntax

/-- The expression that a text writes, if it writes one. -/
def Regex.ofChars? (s : List Char) : Option Regex :=
  match Syntax.readAlternatives (s.length + 1) {} [] [] [] s with
  | some ⟨r, _, []⟩ => if r.depth ≤ Syntax.depthLimit then some r.value else none
  | _ => none

end Gatehouse.Pattern
