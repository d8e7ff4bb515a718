import Mathlib
import Gatehouse.Proofs.Json.Scalar

/-!
# Lists and records in JSON, written and read

A list of strings is read back from its text (`listValue_write`). What a record makes of a written object is said member
by member: `Fills` holds of a list of members and the drafts before and after it when each member, read where it stands,
takes the draft one step further, and then the whole object is read as what the last draft makes (`readAll_write`). The
order of the members, members that are left out and members that the record does not know are all in that relation.
-/

namespace Gatehouse.Json

open Text (Utf8.encode)

/-! ## Brackets and separators -/

/-- A byte that is no space is where the spaces end. -/
theorem skipSpaces_cons {b : UInt8} (h : ¬isSpace b = true) (rest : List UInt8) :
    skipSpaces (b :: rest) = b :: rest := by
  rw [skipSpaces, List.dropWhile_cons_of_neg h]

/-- What may follow a value inside brackets: a comma or a closing bracket. -/
def AfterValue (rest : List UInt8) : Prop :=
  ∃ b tail, rest = b :: tail ∧ (b = 0x2C ∨ b = 0x5D ∨ b = 0x7D)

/-- A number ends where a comma or a closing bracket follows. -/
theorem AfterValue.endsNumber {rest : List UInt8} (h : AfterValue rest) : EndsNumber rest := by
  obtain ⟨b, tail, rfl, hb⟩ := h
  intro x hx
  obtain rfl := Option.some.inj hx
  rcases hb with rfl | rfl | rfl <;> decide

/-- The further members of an object begin with a comma, or with its closing brace. -/
theorem afterValue_writeMembers (members : List (String × Value)) (rest : List UInt8) :
    AfterValue (Utf8.encode (Value.writeMembers members) ++ rest) := by
  cases members with
  | nil => exact ⟨_, _, rfl, Or.inr (Or.inr rfl)⟩
  | cons m members => exact ⟨_, _, rfl, Or.inl rfl⟩

/-! ## Lists of strings -/

/-- Strings are read back as the further elements of a list, up to its closing bracket. -/
theorem readElements_writeItems (expected : String) (names : List String) (rest : List UInt8) :
    ∀ fuel, names.length < fuel →
      readElements (stringValue expected) fuel false (Utf8.encode (Value.writeItems (names.map .string)) ++ rest) =
        .ok (names, 0x5D :: rest) := by
  induction names with
  | nil =>
    intro fuel hf
    obtain ⟨fuel, rfl⟩ := Nat.exists_eq_add_of_le' (show 1 ≤ fuel from hf)
    rfl
  | cons name names ih =>
    intro fuel hf
    rw [List.length_cons] at hf
    obtain ⟨fuel, rfl⟩ := Nat.exists_eq_add_of_le' (show 1 ≤ fuel by omega)
    have hnext : listNext false (0x2C :: (Utf8.encode (writeString name) ++
        (Utf8.encode (Value.writeItems (names.map .string)) ++ rest))) =
          .ok (true,
            Utf8.encode (writeString name) ++ (Utf8.encode (Value.writeItems (names.map .string)) ++ rest)) := by
      rw [encode_writeString]
      rfl
    have he : Utf8.encode (Value.writeItems ((name :: names).map .string)) ++ rest =
        0x2C :: (Utf8.encode (writeString name) ++ (Utf8.encode (Value.writeItems (names.map .string)) ++ rest)) := by
      simp only [List.map_cons, Value.writeItems, Value.write, Text.Utf8.encode_cons, Text.Utf8.encode_append,
        List.append_assoc]
      rfl
    rw [he, readElements, hnext]
    dsimp only
    rw [stringValue_write]
    dsimp only
    rw [ih fuel (by omega)]

/-- A list has no more further items than bytes. -/
theorem length_le_length_writeItems (items : List Value) (rest : List UInt8) :
    items.length ≤ (Utf8.encode (Value.writeItems items) ++ rest).length := by
  induction items with
  | nil => exact Nat.zero_le _
  | cons item items ih =>
    have hc := List.length_pos_of_ne_nil (Text.Utf8.encodeChar_ne_nil ',')
    simp only [Value.writeItems, List.cons_append, Text.Utf8.encode_cons, Text.Utf8.encode_append,
      List.length_append, List.length_cons] at ih ⊢
    omega

/-- A list of strings is read back from its text. -/
theorem listValue_write (expected : String) (names : List String) (rest : List UInt8) :
    listValue (stringValue expected) (Utf8.encode (Value.write (.list (names.map .string))) ++ rest) =
      .ok (names, rest) := by
  cases names with
  | nil => rfl
  | cons name names =>
    have he : Utf8.encode (Value.write (.list ((name :: names).map .string))) ++ rest =
        0x5B :: (Utf8.encode (writeString name) ++ (Utf8.encode (Value.writeItems (names.map .string)) ++ rest)) := by
      simp only [List.map_cons, Value.write, List.cons_append, Text.Utf8.encode_cons, Text.Utf8.encode_append,
        List.append_assoc]
      rfl
    have hnext : listNext true (Utf8.encode (writeString name) ++
        (Utf8.encode (Value.writeItems (names.map .string)) ++ rest)) =
          .ok (true,
            Utf8.encode (writeString name) ++ (Utf8.encode (Value.writeItems (names.map .string)) ++ rest)) := by
      rw [encode_writeString]
      rfl
    have hread : readElements (stringValue expected)
        ((Utf8.encode (writeString name) ++ (Utf8.encode (Value.writeItems (names.map .string)) ++ rest)).length + 1)
        true (Utf8.encode (writeString name) ++ (Utf8.encode (Value.writeItems (names.map .string)) ++ rest)) =
          .ok (name :: names, 0x5D :: rest) := by
      have hlen := length_le_length_writeItems (names.map .string) rest
      have hquote := congrArg List.length (encode_writeString name [])
      rw [readElements, hnext]
      dsimp only
      rw [stringValue_write]
      dsimp only
      rw [readElements_writeItems expected names rest _ (by
        simp only [List.length_append, List.length_cons, List.length_map] at hlen hquote ⊢
        omega)]
    rw [he]
    change close listEnd (readElements _ _ true _) = _
    rw [hread]
    rfl

/-! ## Members of objects -/

/-- The key of the first member. -/
theorem nextKey_first (key : String) (rest : List UInt8) :
    Record.nextKey true (Utf8.encode (writeString key) ++ rest) = .ok (some key, rest) := by
  have hquote : ¬isSpace 0x22 = true := by decide
  rw [encode_writeString]
  simp [Record.nextKey, skipSpaces_cons hquote, readString_write]

/-- The key of a further member. -/
theorem nextKey_further (key : String) (rest : List UInt8) :
    Record.nextKey false (0x2C :: (Utf8.encode (writeString key) ++ rest)) = .ok (some key, rest) := by
  have hcomma : ¬isSpace 0x2C = true := by decide
  have hquote : ¬isSpace 0x22 = true := by decide
  rw [encode_writeString]
  simp [Record.nextKey, skipSpaces_cons hcomma, skipSpaces_cons hquote, readString_write]

namespace Record

variable {σ α : Type} (record : Record σ α)

/-- The members of a written object take one draft of a record to another: each member, read where it stands, takes the
draft one step further. -/
inductive Fills : σ → List (String × Value) → σ → Prop where
  | done (d : σ) : Fills d [] d
  | member {d d' d'' : σ} {key : String} {v : Value} {members : List (String × Value)} :
      (∀ rest, AfterValue rest → record.readMember d key (0x3A :: (Utf8.encode v.write ++ rest)) = .ok (d', rest)) →
        Fills d' members d'' → Fills d ((key, v) :: members) d''

variable {record}

/-- A member whose field is not yet in the draft is read into that field. -/
theorem readMember_one {β : Type} {d : σ} {name : String} {get : σ → Option β} {read : List UInt8 → Result β}
    {set : σ → β → σ} {optional : Bool} {v : β} {s rest : List UInt8}
    (hf : record.fields.find? (·.name = name) = some (.one name get read set optional)) (hg : (get d).isSome = false)
    (hr : read s = .ok (v, rest)) : record.readMember d name (0x3A :: s) = .ok (set d v, rest) := by
  have hset : (Field.one name get read set optional).isSet d = false := hg
  have hcolon : readColon (0x3A :: s) = .ok ((), s) := rfl
  have hread : (Field.one name get read set optional).read d s = .ok (set d v, rest) := by
    unfold Field.one
    simp only [hr, Except.map]
  simp [readMember, hf, hset, hcolon, hread]

/-- The further members of an object are read up to its closing brace. -/
theorem readMembers_writeMembers {d d' : σ} {members : List (String × Value)} (h : record.Fills d members d')
    (rest : List UInt8) : ∀ fuel, members.length < fuel →
      record.readMembers fuel false d (Utf8.encode (Value.writeMembers members) ++ rest) = .ok (d', 0x7D :: rest) := by
  induction h with
  | done d =>
    intro fuel hf
    obtain ⟨fuel, rfl⟩ := Nat.exists_eq_add_of_le' (show 1 ≤ fuel from hf)
    rfl
  | @member d d₁ d' key v members hread _ ih =>
    intro fuel hf
    rw [List.length_cons] at hf
    obtain ⟨fuel, rfl⟩ := Nat.exists_eq_add_of_le' (show 1 ≤ fuel by omega)
    have he : Utf8.encode (Value.writeMembers ((key, v) :: members)) ++ rest =
        0x2C :: (Utf8.encode (writeString key) ++
          0x3A :: (Utf8.encode v.write ++ (Utf8.encode (Value.writeMembers members) ++ rest))) := by
      simp only [Value.writeMembers, List.cons_append, Text.Utf8.encode_cons, Text.Utf8.encode_append,
        List.append_assoc]
      rfl
    rw [he, readMembers, nextKey_further]
    dsimp only
    rw [hread _ (afterValue_writeMembers members rest)]
    dsimp only
    exact ih fuel (by omega)

/-- An object has no more further members than bytes. -/
theorem length_le_length_writeMembers (members : List (String × Value)) (rest : List UInt8) :
    members.length ≤ (Utf8.encode (Value.writeMembers members) ++ rest).length := by
  induction members with
  | nil => exact Nat.zero_le _
  | cons m members ih =>
    have hc := List.length_pos_of_ne_nil (Text.Utf8.encodeChar_ne_nil ',')
    simp only [Value.writeMembers, List.cons_append, Text.Utf8.encode_cons, Text.Utf8.encode_append,
      List.length_append] at ih ⊢
    rw [List.length_cons]
    omega

/-- The members of a written object are read after its opening brace. -/
theorem readMembers_write {d : σ} {key : String} {v : Value} {members : List (String × Value)}
    (h : record.Fills record.empty ((key, v) :: members) d) :
    ∃ rest, Utf8.encode (Value.write (.object ((key, v) :: members))) = 0x7B :: rest ∧
      record.readMembers (rest.length + 1) true record.empty rest = .ok (d, [0x7D]) := by
  cases h with
  | @member _ d₁ _ _ _ _ hread hrest =>
    refine ⟨Utf8.encode (writeString key) ++
      0x3A :: (Utf8.encode v.write ++ (Utf8.encode (Value.writeMembers members) ++ [])), ?_, ?_⟩
    · simp only [Value.write, List.cons_append, Text.Utf8.encode_cons, Text.Utf8.encode_append, List.append_assoc,
        List.append_nil]
      rfl
    · have hlen := length_le_length_writeMembers members []
      rw [readMembers, nextKey_first]
      dsimp only
      rw [hread _ (afterValue_writeMembers members [])]
      dsimp only
      rw [readMembers_writeMembers hrest [] _ (by simp only [List.length_append, List.length_cons] at hlen ⊢; omega)]

/-- A written object is read as what its members make of the record. -/
theorem readAll_write {d : σ} {a : α} {key : String} {v : Value} {members : List (String × Value)}
    (h : record.Fills record.empty ((key, v) :: members) d) (ha : record.complete d = .ok a) :
    record.readAll (Utf8.encode (Value.write (.object ((key, v) :: members)))) = .ok a := by
  obtain ⟨rest, he, hm⟩ := readMembers_write h
  have hbrace : ¬isSpace 0x7B = true := by decide
  have hclose : objectEnd [0x7D] = (none, []) := rfl
  have hread : record.read (0x7B :: rest) = .ok (a, []) := by
    simp [read, skipSpaces_cons hbrace, hm, completed, ha, close, hclose]
  rw [he, readAll, hread]
  rfl

end Record

end Gatehouse.Json
