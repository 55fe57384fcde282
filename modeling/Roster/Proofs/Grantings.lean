import Roster.CommandLine.Instructions
import Roster.Proofs.Atomicity

/-!
# Roles granted one after another

Within a workspace, roles are granted one by one, each in a transaction of its own. When one of them
is refused, those before it have been granted and those after it are not looked at any more.
-/

namespace Roster.Grants

open CommandLine (grantAll)

variable {user : UserId} {workspace : WorkspaceId} {moment : Moment}

/-- Some roles are granted one after another until one of them is refused, which leaves a directory as
the roles before it have made it. -/
inductive CutShort (user : UserId) (workspace : WorkspaceId) (moment : Moment) :
    Directory → List RoleId → Directory → Prop
  | refused {directory directory' : Directory} {role : RoleId} {rest : List RoleId} {error : Error}
    (h : (addWorkspaceRole user workspace role).perform moment directory = (.error error, directory')) :
    CutShort user workspace moment directory (role :: rest) directory
  | granted {directory directory₁ directory₂ : Directory} {role : RoleId} {rest : List RoleId}
    {p : Permittable}
    (h : (addWorkspaceRole user workspace role).perform moment directory = (.ok p, directory₁))
    (hrest : CutShort user workspace moment directory₁ rest directory₂) :
    CutShort user workspace moment directory (role :: rest) directory₂

/-- A grant that is refused leaves the store as it was. -/
theorem store_of_refused {directory directory' : Directory} {role : RoleId} {error : Error}
    (h : (addWorkspaceRole user workspace role).perform moment directory = (.error error, directory')) :
    directory'.store = directory.store :=
  (Action.ActsOnce.run rfl _ _).store_of_error h

/-- Grants that are cut short fail with the error of the role that is refused. -/
theorem CutShort.grantAll {directory directory₁ : Directory} {roles : List RoleId}
    (h : CutShort user workspace moment directory roles directory₁) :
    ∃ error directory', (grantAll user workspace roles).perform moment directory =
      (.error error, directory') ∧ directory'.store = directory₁.store := by
  induction h with
  | refused h =>
    exact ⟨_, _, Action.perform_bind_eq_error.2 (.inl h), store_of_refused h⟩
  | granted h _ ih =>
    obtain ⟨error, directory', hrest, hstore⟩ := ih
    exact ⟨error, directory', Action.perform_bind_eq_error.2 (.inr ⟨_, _, h, hrest⟩), hstore⟩

/-- Grants that fail are cut short. -/
theorem cutShort_of_grantAll {roles : List RoleId} {directory directory' : Directory} {error : Error}
    (h : (CommandLine.grantAll user workspace roles).perform moment directory =
      (.error error, directory')) :
    ∃ directory₁, CutShort user workspace moment directory roles directory₁ ∧
      directory'.store = directory₁.store := by
  induction roles generalizing directory with
  | nil => exact nomatch h
  | cons role rest ih =>
    obtain hrefused | ⟨p, directory₁, hgranted, hrest⟩ := Action.perform_bind_eq_error.1 h
    · exact ⟨directory, .refused hrefused, store_of_refused hrefused⟩
    · obtain ⟨directory₂, hcut, hstore⟩ := ih hrest
      exact ⟨directory₂, .granted hgranted hcut, hstore⟩

/-- A store that is not kept in its file leaves the file alone. -/
theorem CutShort.file_of_detached {directory directory₁ : Directory} {roles : List RoleId}
    (h : CutShort user workspace moment directory roles directory₁)
    (hdetached : directory.store.attached = false) :
    directory₁.store.file = directory.store.file := by
  induction h with
  | refused => rfl
  | granted hgranted _ ih =>
    obtain ⟨-, draft, drawn, store, -, hcommit, rfl⟩ := (Usecase.perform_run_eq_ok rfl).1 hgranted
    rw [Store.commit, hdetached] at hcommit
    cases hcommit
    exact ih rfl

end Roster.Grants
