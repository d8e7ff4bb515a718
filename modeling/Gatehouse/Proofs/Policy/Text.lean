import Mathlib
import Gatehouse.Proofs.Policy.Lines
import Gatehouse.Proofs.Text.Blank

/-!
# Which texts are policies

A line that is neither blank nor a comment is an entry. It is at fault when its first field is neither the letter `p`
nor the letter `g`, or when it has five fields, the first of which is the letter `p` and the last of which is no
effect. A text is refused exactly when one of its lines is at fault, for the first such line; every other text is read
as the leading rules and the distinct groupings that its lines state (`RuleSet.ofText_decided`).
-/

namespace Gatehouse.Policy

/-! ## Lines at fault -/

/-- A line is neither blank nor a comment. -/
def IsEntry (line : List Char) : Prop :=
  (∃ c ∈ line, Text.isBlank c = false) ∧ (Text.trim line).head? ≠ some '#'

/-- What can be wrong with a line. -/
inductive LineFault
  /-- The line is of no known kind. -/
  | kind (word : String)
  /-- The rule has no known effect. -/
  | effect (word : String)
  deriving DecidableEq

/-- The error for a fault in the line of a number. -/
def LineFault.error (number : Nat) : LineFault → ServiceError
  | .kind word => .configuration ("Unknown policy type '" ++ word ++ "' on line " ++ toString number)
  | .effect word => .configuration ("Unknown policy effect '" ++ word ++ "'")

/-- What is wrong with a line. -/
inductive HasFault (line : List Char) : LineFault → Prop where
  | kind {word : String} {rest : List String} (entry : IsEntry line)
      (fields_eq : RuleSet.fields (Text.trim line) = word :: rest) (no_rule : word ≠ "p") (no_grouping : word ≠ "g") :
      HasFault line (.kind word)
  | effect {subject resource action word : String} (entry : IsEntry line)
      (fields_eq : RuleSet.fields (Text.trim line) = ["p", subject, resource, action, word]) (not_allow : word ≠ "allow")
      (not_deny : word ≠ "deny") : HasFault line (.effect word)

/-- A line that is left out is no entry. -/
theorem isEntry_iff {line : List Char} :
    IsEntry line ↔ ((Text.trim line).isEmpty || decide ((Text.trim line).head? = some '#')) = false := by
  have hblank : (Text.trim line).isEmpty = false ↔ ∃ c ∈ line, Text.isBlank c = false := by
    rw [← Bool.not_eq_true, Text.trim_isEmpty_iff]
    simp
  rw [Bool.or_eq_false_iff, decide_eq_false_iff_not, hblank, IsEntry]

/-- The words for effects are the only ones that stand for an effect; the error for another word names no line. -/
theorem Effect.ofName_eq_error_iff {word : String} {number : Nat} {e : ServiceError} :
    Effect.ofName word = .error e ↔ word ≠ "allow" ∧ word ≠ "deny" ∧ e = (LineFault.effect word).error number := by
  unfold Effect.ofName Effect.name
  split_ifs with hallow hdeny
  · simp [hallow]
  · simp [hdeny]
  · simp [hallow, hdeny, LineFault.error, eq_comm]

/-! ## Reading lines -/

namespace RuleSet

variable {set set' : RuleSet} {number : Nat} {e : ServiceError}

/-- An entry is read by its fields. -/
theorem addLine_of_isEntry {line : List Char} (h : IsEntry line) :
    set.addLine number line =
      match fields (Text.trim line) with
      | ["p", subject, resource, action] => .ok (set.addRule ⟨subject, resource, action, .allow⟩)
      | ["p", subject, resource, action, effect] =>
        (Effect.ofName effect).map fun effect => set.addRule ⟨subject, resource, action, effect⟩
      | ["g", subject, role] => .ok (set.addGrouping ⟨subject, ⟨role⟩⟩)
      | "p" :: _ | "g" :: _ => .ok set
      | kind :: _ => .error ((LineFault.kind kind).error number)
      | [] => .ok set := by
  unfold addLine
  dsimp only
  rw [if_neg (by rw [isEntry_iff.1 h]; decide)]
  rfl

/-- A line that is no entry adds nothing. -/
theorem addLine_of_not_isEntry {line : List Char} (h : ¬IsEntry line) : set.addLine number line = .ok set := by
  rw [isEntry_iff, Bool.not_eq_false] at h
  unfold addLine
  dsimp only
  rw [if_pos h]

/-- A line is refused exactly when something is wrong with it. -/
theorem addLine_eq_error_iff {line : List Char} :
    set.addLine number line = .error e ↔ ∃ fault, HasFault line fault ∧ e = fault.error number := by
  constructor
  · intro h
    by_cases hentry : IsEntry line
    · rw [addLine_of_isEntry hentry] at h
      split at h
      · cases h
      · next subject resource action word hfields =>
        obtain ⟨hallow, hdeny, he⟩ := Effect.ofName_eq_error_iff.1 (Outcome.map_eq_error_iff.1 h)
        exact ⟨.effect word, .effect hentry hfields hallow hdeny, he⟩
      · cases h
      · cases h
      · cases h
      · next word rest _ _ _ hrule hgrouping hfields =>
        exact ⟨.kind word, .kind hentry hfields hrule hgrouping, (Except.error.inj h).symm⟩
      · cases h
    · rw [addLine_of_not_isEntry hentry] at h
      cases h
  · rintro ⟨fault, hfault, rfl⟩
    cases hfault with
    | kind hentry hfields hrule hgrouping =>
      rw [addLine_of_isEntry hentry, hfields]
      split
      · next heq => exact absurd (List.cons.inj heq).1 hrule
      · next heq => exact absurd (List.cons.inj heq).1 hrule
      · next heq => exact absurd (List.cons.inj heq).1 hgrouping
      · next heq => exact absurd (List.cons.inj heq).1 hrule
      · next heq => exact absurd (List.cons.inj heq).1 hgrouping
      · next heq => rw [(List.cons.inj heq).1]
      · next heq => cases heq
    | effect hentry hfields hallow hdeny =>
      rw [addLine_of_isEntry hentry, hfields]
      exact Outcome.map_eq_error_iff.2 (Effect.ofName_eq_error_iff.2 ⟨hallow, hdeny, rfl⟩)

/-- Nothing is wrong with a line that is read. -/
theorem not_hasFault_of_addLine {line : List Char} (h : set.addLine number line = .ok set') (fault : LineFault) :
    ¬HasFault line fault := by
  intro hfault
  have herror : set.addLine number line = .error (fault.error number) := addLine_eq_error_iff.2 ⟨fault, hfault, rfl⟩
  rw [h] at herror
  cases herror

/-- Lines are refused exactly when something is wrong with one of them, for what is wrong with the first such line. -/
theorem addLines_eq_error_iff {lines : List (List Char)} :
    set.addLines number lines = .error e ↔
      ∃ before line after fault, lines = before ++ line :: after ∧ (∀ l ∈ before, ∀ f, ¬HasFault l f) ∧
        HasFault line fault ∧ e = fault.error (number + before.length) := by
  induction lines generalizing set number with
  | nil => simp [addLines]
  | cons first rest ih =>
    rw [addLines]
    cases hfirst : set.addLine number first with
    | error e' =>
      obtain ⟨fault, hfault, rfl⟩ := addLine_eq_error_iff.1 hfirst
      constructor
      · intro h
        exact ⟨[], first, rest, fault, rfl, by simp, hfault, (Except.error.inj h).symm⟩
      · rintro ⟨before, line, after, fault', hlines, hbefore, hline, rfl⟩
        cases before with
        | nil =>
          obtain ⟨rfl, -⟩ := List.cons.inj hlines
          exact hfirst.symm.trans (addLine_eq_error_iff.2 ⟨fault', hline, rfl⟩)
        | cons l before =>
          obtain ⟨rfl, -⟩ := List.cons.inj hlines
          exact absurd hfault (hbefore _ List.mem_cons_self _)
    | ok next =>
      have hnone := not_hasFault_of_addLine hfirst
      dsimp only
      rw [ih]
      constructor
      · rintro ⟨before, line, after, fault, rfl, hbefore, hline, rfl⟩
        refine ⟨first :: before, line, after, fault, rfl, ?_, hline, ?_⟩
        · exact List.forall_mem_cons.2 ⟨hnone, hbefore⟩
        · rw [List.length_cons, Nat.add_right_comm, Nat.add_assoc]
      · rintro ⟨before, line, after, fault, hlines, hbefore, hline, rfl⟩
        cases before with
        | nil =>
          obtain ⟨rfl, -⟩ := List.cons.inj hlines
          exact absurd hline (hnone fault)
        | cons l before =>
          obtain ⟨rfl, rfl⟩ := List.cons.inj hlines
          refine ⟨before, line, after, fault, rfl, (List.forall_mem_cons.1 hbefore).2, hline, ?_⟩
          rw [List.length_cons, Nat.add_right_comm, Nat.add_assoc]

/-- Lines are read exactly when nothing is wrong with any of them. -/
theorem exists_addLines_iff {lines : List (List Char)} :
    (∃ set', set.addLines number lines = .ok set') ↔ ∀ line ∈ lines, ∀ f, ¬HasFault line f := by
  induction lines generalizing set number with
  | nil => simp [addLines]
  | cons first rest ih =>
    rw [addLines, List.forall_mem_cons]
    cases hfirst : set.addLine number first with
    | error e =>
      obtain ⟨fault, hfault, -⟩ := addLine_eq_error_iff.1 hfirst
      constructor
      · rintro ⟨set', h⟩
        cases h
      · rintro ⟨hnone, -⟩
        exact absurd hfault (hnone fault)
    | ok next =>
      dsimp only
      rw [ih, and_iff_right (not_hasFault_of_addLine hfirst)]

/-- A text is refused exactly when something is wrong with one of its lines, for what is wrong with the first such line
and with the number of that line, counted from one. Every other text is read, and what is read from it are the leading
rules and the distinct groupings that its lines state, in the order of the text. -/
theorem ofText_decided (text : String) :
    (∀ e, ofText text = .error e ↔
      ∃ before line after fault, Text.lines text.toList = before ++ line :: after ∧
        (∀ l ∈ before, ∀ f, ¬HasFault l f) ∧ HasFault line fault ∧ e = fault.error (before.length + 1)) ∧
      ∀ set, ofText text = .ok set ↔
        (∀ line ∈ Text.lines text.toList, ∀ f, ¬HasFault line f) ∧
          set = ⟨leading (statedRules text), statedGroupings text⟩ := by
  have hread {set : RuleSet} (h : ofText text = .ok set) :
      set = ⟨leading (statedRules text), statedGroupings text⟩ := by
    rw [← rules_ofText h, ← groupings_ofText h]
  refine ⟨fun e => ?_, fun set => ?_⟩
  · simp only [ofText, addLines_eq_error_iff, Nat.add_comm 1]
  · rw [← @exists_addLines_iff empty 1]
    constructor
    · intro h
      exact ⟨⟨set, h⟩, hread h⟩
    · rintro ⟨⟨set', h⟩, rfl⟩
      rw [← hread h]
      exact h

end RuleSet

end Gatehouse.Policy
