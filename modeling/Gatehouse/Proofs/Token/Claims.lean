import Mathlib
import Gatehouse.Proofs.Json.Record
import Gatehouse.Token.Claims

/-!
# The parts of claims, written and read

Identifiers (`Claims.readUuid_write`) and roles (`Claims.readRoles_write`) are read back from what is written for them,
and instants as the start of their second (`Claims.readInstant_write`).
-/

namespace Gatehouse

namespace Instant

/-- The start of a second is the instant of that second. -/
theorem ofSeconds?_seconds (t : Instant) : ofSeconds? t.seconds = some t.floor := by
  unfold ofSeconds? ofParts?
  rw [dif_pos ⟨t.earliest_le, t.le_latest, by decide⟩]
  rfl

/-- The seconds of every instant fit in 64 bits. -/
theorem isInt64_seconds (t : Instant) : Decimal.isInt64 t.seconds = true := by
  have h1 := t.earliest_le
  have h2 := t.le_latest
  simp only [earliest, latest] at h1 h2
  rw [Json.isInt64_iff]
  omega

end Instant

namespace Claims

open Json (AfterValue Value Record)
open Text (Utf8.encode)

/-- An identifier is read back. -/
theorem readUuid_write (id : Uuid) (rest : List UInt8) :
    readUuid (Utf8.encode (Value.write (.string id.toString)) ++ rest) = .ok (id, rest) := by
  simp only [readUuid, Value.write, Json.stringValue_write, Uuid.ofString?_toString]

/-- An instant is read back as the start of its second. -/
theorem readInstant_write (t : Instant) {rest : List UInt8} (h : AfterValue rest) :
    readInstant (Utf8.encode (Value.write (.integer t.seconds)) ++ rest) = .ok (t.floor, rest) := by
  simp only [readInstant, Value.write, Json.integerValue_write _ t.isInt64_seconds h.endsNumber,
    Instant.ofSeconds?_seconds]

/-- Roles are read back in their order. -/
theorem readRoles_write (roles : List Role) (rest : List UInt8) :
    readRoles (Utf8.encode (Value.write (.list (roles.map fun role => .string role.name))) ++ rest) =
      .ok (roles, rest) := by
  have hmap : (roles.map fun role => Value.string role.name) = (roles.map Role.name).map .string := by
    rw [List.map_map]
    rfl
  have hback : (roles.map Role.name).map Role.mk = roles := by
    rw [List.map_map]
    exact List.map_id roles
  rw [hmap, readRoles, Json.listValue_write]
  exact congrArg (fun roles => Except.ok (roles, rest)) hback

end Claims

end Gatehouse
