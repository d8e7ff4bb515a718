import Mathlib
import Gatehouse.Token.Header

/-!
# Which headers are accepted

`TokenHeader.Hs256` says what the members of a header are, name by name, and `acceptsBytes_iff` that the headers which
are accepted are the JSON objects with such members.
-/

namespace Gatehouse.TokenHeader

open Json (Value)

/-- What the members of a header for HS256 are. -/
structure Hs256 (members : List (String × Value)) : Prop where
  /-- The algorithm stands once and is HS256, as a string or as the name of the only, empty member of an object. -/
  algorithm : Value.members "alg" members = [.string "HS256"] ∨
    Value.members "alg" members = [.object [("HS256", .null)]]
  /-- A key stands at most once; unless it is null it has the parts of one of the kinds of key. -/
  key : Value.members "jwk" members = [] ∨ Value.members "jwk" members = [.null] ∨
    ∃ v, Value.members "jwk" members = [v] ∧ isKey v = true
  /-- The known texts stand at most once each. -/
  strings : ∀ name ∈ stringMembers, Value.members name members = [] ∨ Value.members name members = [.null] ∨
    ∃ s, Value.members name members = [.string s]
  /-- The known lists of texts stand at most once each. -/
  lists : ∀ name ∈ listMembers, Value.members name members = [] ∨ Value.members name members = [.null] ∨
    ∃ texts : List String, Value.members name members = [.list (texts.map .string)]
  /-- All other members are texts. -/
  others : ∀ name v, (name, v) ∈ members → isKnown name = false → ∃ s, v = .string s

/-- A value is a string exactly when the test for strings says so. -/
theorem isString_iff {v : Value} : isString v = true ↔ ∃ s, v = .string s := by
  cases v <;> simp [isString]

/-- A value is a list of strings exactly when the test for such lists says so. -/
theorem isStrings_iff {v : Value} : isStrings v = true ↔ ∃ texts : List String, v = .list (texts.map .string) := by
  cases v with
  | list items =>
    simp only [isStrings, List.all_eq_true, isString_iff, Value.list.injEq]
    constructor
    · intro h
      choose! text ht using h
      refine ⟨items.map text, ?_⟩
      rw [List.map_map]
      exact (List.map_id items).symm.trans (List.map_congr_left fun v hv => ht v hv)
    · rintro ⟨texts, rfl⟩ v hv
      obtain ⟨s, -, rfl⟩ := List.mem_map.1 hv
      exact ⟨s, rfl⟩
  | _ => simp [isStrings]

/-- The name of the algorithm, as a string or as an object. -/
theorem isName_hs256_iff {v : Value} :
    isName ["HS256"] v = true ↔ v = .string "HS256" ∨ v = .object [("HS256", .null)] := by
  unfold isName
  split <;> simp_all

/-- A member that stands once and is as wanted. -/
theorem has_iff {name : String} {accepts : Value → Bool} {members : List (String × Value)} :
    has name accepts members = true ↔ ∃ v, Value.members name members = [v] ∧ accepts v = true := by
  unfold has only?
  rcases Value.members name members with _ | ⟨v, _ | ⟨w, rest⟩⟩ <;> simp

/-- A member that may be null is absent, null, or stands once and is as wanted. -/
theorem may_orNull_iff {name : String} {accepts : Value → Bool} {members : List (String × Value)} :
    may name (orNull accepts) members = true ↔ Value.members name members = [] ∨ Value.members name members = [.null] ∨
      ∃ v, Value.members name members = [v] ∧ accepts v = true := by
  unfold may
  rcases Value.members name members with _ | ⟨v, _ | ⟨w, rest⟩⟩
  · simp
  · cases v <;> simp [orNull]
  · simp

/-- The members that are accepted are those of a header for HS256. -/
theorem accepts_iff {members : List (String × Value)} : accepts members = true ↔ Hs256 members := by
  have halg : (∃ v, Value.members "alg" members = [v] ∧ (v = .string "HS256" ∨ v = .object [("HS256", .null)])) ↔
      (Value.members "alg" members = [.string "HS256"] ∨
        Value.members "alg" members = [.object [("HS256", .null)]]) := by
    constructor
    · rintro ⟨v, hv, rfl | rfl⟩
      · exact Or.inl hv
      · exact Or.inr hv
    · rintro (hv | hv)
      · exact ⟨_, hv, Or.inl rfl⟩
      · exact ⟨_, hv, Or.inr rfl⟩
  have hone {P : Value → Prop} {vs : List Value} {β : Type} {f : β → Value} (hP : ∀ v, P v ↔ ∃ b, v = f b) :
      (∃ v, vs = [v] ∧ P v) ↔ ∃ b, vs = [f b] := by
    constructor
    · rintro ⟨v, hv, h⟩
      obtain ⟨b, rfl⟩ := (hP v).1 h
      exact ⟨b, hv⟩
    · rintro ⟨b, hv⟩
      exact ⟨_, hv, (hP _).2 ⟨b, rfl⟩⟩
  have hothers : (∀ m ∈ members, isKnown m.1 = true ∨ isString m.2 = true) ↔
      ∀ name v, (name, v) ∈ members → isKnown name = false → ∃ s, v = .string s := by
    constructor
    · intro h name v hm hk
      exact isString_iff.1 ((h (name, v) hm).resolve_left (by simp [hk]))
    · rintro h ⟨name, v⟩ hm
      cases hk : isKnown name with
      | true => exact Or.inl rfl
      | false => exact Or.inr (isString_iff.2 (h name v hm hk))
  simp only [accepts, Bool.and_eq_true, List.all_eq_true, has_iff, may_orNull_iff, isName_hs256_iff, Bool.or_eq_true,
    halg, hothers, hone (fun _ => isString_iff), hone (fun _ => isStrings_iff)]
  constructor
  · rintro ⟨⟨⟨⟨h1, h2⟩, h3⟩, h4⟩, h5⟩
    exact ⟨h1, h2, h3, h4, h5⟩
  · rintro ⟨h1, h2, h3, h4, h5⟩
    exact ⟨⟨⟨⟨h1, h2⟩, h3⟩, h4⟩, h5⟩

/-- The headers that are accepted are the JSON objects whose members are those of a header for HS256. -/
theorem acceptsBytes_iff {s : List UInt8} :
    acceptsBytes s = true ↔ ∃ members, Value.ofBytes s = .ok (.object members) ∧ Hs256 members := by
  unfold acceptsBytes
  split
  · next members h => simp [h, accepts_iff]
  · next h =>
    constructor
    · intro hf
      cases hf
    · rintro ⟨members, hm, -⟩
      exact absurd hm (h members)

end Gatehouse.TokenHeader
