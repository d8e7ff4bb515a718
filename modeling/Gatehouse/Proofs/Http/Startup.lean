import Mathlib
import Gatehouse.Proofs.Http.Run
import Gatehouse.Proofs.Outcome
import Gatehouse.Proofs.Settings.Layer
import Gatehouse.Startup

/-!
# The service that a start gives

A block of environment variables gives the settings that are loaded from its texts, unless a variable of this program is
no text (`Settings.ofBlock_eq_ok_iff`). A start that succeeds gives a service with nobody logged in and with the maker,
the engine and the flow of its settings, over stores that do not fail (`Startup.serve_eq_ok_iff`).
-/

namespace Gatehouse

open Http (Components)
open Outcome

namespace Settings

variable {files : Files} {block : List UInt8} {s : Settings}

/-- No variable of this program stands in the way when each has a text or is in the environment. -/
theorem unreadable?_eq_none_iff {env : Environment} :
    unreadable? env block = none ↔ ∀ entry ∈ Environment.rawEntries block, (ownName? entry.1).isSome = true →
      (Text.Utf8.decodeString? entry.2).isSome = true ∨ (env.get? entry.1).isSome = true := by
  rw [unreadable?, List.findSome?_eq_none_iff]
  refine forall₂_congr fun entry _ => ?_
  obtain ⟨name, value⟩ := entry
  rw [← Bool.or_eq_true]
  dsimp only
  split_ifs with h
  · exact iff_of_true rfl fun _ => h
  · rw [Option.map_eq_none_iff, ← Option.not_isSome_iff_eq_none]
    exact (imp_iff_not h).symm

/-- A block of environment variables gives the settings that are loaded from its texts, unless a variable of this
program is no text; then the environment file has to set it. -/
theorem ofBlock_eq_ok_iff :
    ofBlock files block = .ok s ↔ load files (.ofBlock block) = .ok s ∧
      ∀ entry ∈ Environment.rawEntries block, (ownName? entry.1).isSome = true →
        (Text.Utf8.decodeString? entry.2).isSome = true ∨
          ((fullEnvironment files (.ofBlock block)).get? entry.1).isSome = true := by
  rw [← unreadable?_eq_none_iff]
  simp only [ofBlock, bind_eq_ok_iff, mapError_eq_ok_iff]
  constructor
  · rintro ⟨file, -, h⟩
    split at h
    · cases h
    · next hnone => exact ⟨mapError_eq_ok_iff.1 h, hnone⟩
  · rintro ⟨hload, hnone⟩
    obtain ⟨file, hfile⟩ := exists_ofFiles_of_load hload
    refine ⟨file, hfile, ?_⟩
    rw [hnone]
    exact mapError_eq_ok_iff.2 hload

end Settings

namespace Startup

/-- What a start succeeds with: all parts of the service, each from its own settings. -/
theorem serve_eq_ok_iff {start : Startup} {files : Files} {s : Settings} {ready : Ready} :
    start.serve files s = .ok ready ↔
      ∃ maker users engine flow, s.token.maker = .ok maker ∧ start.seed s.users = .ok users ∧
        Policy.Engine.ofSource files s.policy.source = .ok engine ∧
        s.token.flow ⟨maker, start.tokenIds, {}⟩ = .ok flow ∧
        ready = ⟨s.server.address, { auth := .initial users, components := .of maker engine flow }⟩ := by
  simp only [serve, bind_eq_ok_iff, mapError_eq_ok_iff]
  constructor
  · rintro ⟨maker, hmaker, users, husers, engine, hengine, flow, hflow, h⟩
    exact ⟨maker, users, engine, flow, hmaker, husers, hengine, hflow, (Except.ok.inj h).symm⟩
  · rintro ⟨maker, users, engine, flow, hmaker, husers, hengine, hflow, rfl⟩
    exact ⟨maker, hmaker, users, husers, engine, hengine, flow, hflow, rfl⟩

end Startup

end Gatehouse
