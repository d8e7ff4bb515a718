import Mathlib
import Gatehouse.Proofs.Lookup
import Gatehouse.Settings.Load

/-!
# What the environment file adds

An environment file is a sequence of assignments (`EnvironmentFile.assigned`), and each sets its variable if that is not
set yet (`Settings.fullEnvironment_eq_setAll`). So a variable has the text that the environment gives it or else that of
its first assignment (`Environment.get?_setAll`), and each name stays there once.
-/

namespace Gatehouse

namespace Environment

variable {env : Environment} {name : String}

/-- The names of the variables. -/
def names (env : Environment) : List String := env.entries.map Prod.fst

/-- A variable after another one is set, if that is not set yet. -/
theorem get?_setNew (env : Environment) (key text name : String) :
    (env.setNew key text).get? name = (env.get? name).or ([(key, text)].lookup name) := by
  unfold setNew
  split
  next old hold =>
    by_cases hname : name = key
    · subst hname
      rw [hold, Option.some_or]
    · rw [Lookup.lookup_cons_of_ne hname, List.lookup_nil, Option.or_none]
  next => exact List.lookup_append

/-- A name is set to begin with, or by one of the assignments. -/
theorem mem_names_setNew {key text : String} (h : name ∈ (env.setNew key text).names) : name ∈ env.names ∨ name = key := by
  unfold setNew at h
  split at h
  next => exact Or.inl h
  next =>
    rw [names, List.map_append] at h
    exact (List.mem_append.1 h).imp_right List.mem_singleton.1

/-- Each name stays there once. -/
theorem nodup_names_setNew (h : env.names.Nodup) (key text : String) : (env.setNew key text).names.Nodup := by
  unfold setNew
  split
  next => exact h
  next hnone => exact Lookup.nodup_append_singleton h hnone text

/-- The environment after some assignments, each of which sets a variable that is not set yet. -/
def setAll (env : Environment) (assignments : List (String × String)) : Environment :=
  assignments.foldl (fun env (name, text) => env.setNew name text) env

/-- A variable has its text in the environment, or else that of its first assignment. -/
theorem get?_setAll (env : Environment) (assignments : List (String × String)) (name : String) :
    (env.setAll assignments).get? name = (env.get? name).or (assignments.lookup name) := by
  induction assignments generalizing env with
  | nil => exact Option.or_none.symm
  | cons first rest ih =>
    obtain ⟨key, text⟩ := first
    change ((env.setNew key text).setAll rest).get? name = (env.get? name).or (([(key, text)] ++ rest).lookup name)
    rw [ih, get?_setNew, List.lookup_append, Option.or_assoc]

/-- Each name stays there once. -/
theorem nodup_names_setAll (h : env.names.Nodup) (assignments : List (String × String)) :
    (env.setAll assignments).names.Nodup := by
  induction assignments generalizing env with
  | nil => exact h
  | cons first rest ih => exact ih (nodup_names_setNew h first.1 first.2)

/-- A name is set to begin with, or by one of the assignments. -/
theorem mem_names_setAll {assignments : List (String × String)} (h : name ∈ (env.setAll assignments).names) :
    name ∈ env.names ∨ name ∈ assignments.map Prod.fst := by
  induction assignments generalizing env with
  | nil => exact Or.inl h
  | cons first rest ih =>
    rcases ih h with hset | hrest
    · rcases mem_names_setNew hset with hset | rfl
      · exact Or.inl hset
      · exact Or.inr List.mem_cons_self
    · exact Or.inr (List.mem_cons_of_mem _ hrest)

end Environment

namespace EnvironmentFile

/-- The assignments of some lines, up to the first that is none. Their values may name variables that were set before. -/
def assigned : Environment → List (List Char) → List (String × String)
  | _, [] => []
  | env, line :: rest =>
    let line := Text.trim line
    if isVoid line then assigned env rest
    else
      match readAssignment (fun name => ((env.get? (String.ofList name)).getD "").toList) line with
      | some (name, text) => (name, text) :: assigned (env.setNew name text) rest
      | none => []

/-- The variables of lines are set by their assignments. -/
theorem setLines_eq_setAll (env : Environment) (lines : List (List Char)) :
    setLines env lines = env.setAll (assigned env lines) := by
  induction lines generalizing env with
  | nil => rfl
  | cons line rest ih =>
    rw [setLines, assigned]
    split_ifs with hvoid
    · exact ih env
    · cases readAssignment (fun name => ((env.get? (String.ofList name)).getD "").toList) (Text.trim line) with
      | none => rfl
      | some assignment => exact ih (env.setNew assignment.1 assignment.2)

end EnvironmentFile

namespace Settings

/-- The assignments of the environment file. -/
def assignedBy (files : Files) (env : Environment) : List (String × String) :=
  match files.content? environmentFile with
  | some bytes => EnvironmentFile.assigned env (EnvironmentFile.lines bytes)
  | none => []

/-- The environment file sets variables by its assignments. -/
theorem fullEnvironment_eq_setAll (files : Files) (env : Environment) :
    fullEnvironment files env = env.setAll (assignedBy files env) := by
  unfold fullEnvironment assignedBy
  cases files.content? environmentFile with
  | none => rfl
  | some bytes => exact EnvironmentFile.setLines_eq_setAll env _

end Settings

end Gatehouse
