import Roster.Proofs.Endings
import Roster.Proofs.Outcomes

/-!
# What commands do to drafts

Each command applies to a draft exactly under a condition of its own, and then writes or removes
rows of one table. A draft begun on some tables differs from them in touched rows only, whatever
program has run on it.
-/

namespace Roster

namespace Command

variable {d d' : Draft}

/-- A command that no filter forbids makes its change. -/
theorem apply_of_refusal?_eq_none {command : Command} (h : command.refusal? = none) :
    command.apply d = command.change d := by
  simp only [apply, h]

/-- A command that applies makes its change. -/
theorem change_of_apply {command : Command} (h : command.apply d = .ok d') :
    command.change d = .ok d' := by
  unfold apply at h
  split at h
  · exact nomatch h
  · exact h

/-- Saving workspaces always applies. -/
@[simp]
theorem apply_saveWorkspaces {workspaces : List Workspace} :
    (saveWorkspaces .none workspaces).apply d = .ok d' ↔
      d' = workspaces.foldl Draft.putWorkspace d := by
  rw [apply_of_refusal?_eq_none (by simp [refusal?, writes])]
  exact ok_eq_ok_comm

/-- A workspace is created exactly when its key is free. -/
@[simp]
theorem apply_createWorkspace {ws : Workspace} :
    (createWorkspace .none ws).apply d = .ok d' ↔
      d.tables.workspaces.get? ws.id = none ∧ d' = d.putWorkspace ws := by
  rw [apply_of_refusal?_eq_none (by simp [refusal?, writes]), ← Table.contains_eq_false_iff]
  exact refusing_eq_ok

/-- A workspace is removed exactly when it is there. -/
@[simp]
theorem apply_removeWorkspace {id : WorkspaceId} :
    (removeWorkspace .none id).apply d = .ok d' ↔
      d.tables.workspaces.contains id = true ∧ d' = d.dropWorkspace id := by
  rw [apply_of_refusal?_eq_none (by simp [refusal?, writes]), ← Bool.not_eq_false']
  exact refusing_eq_ok

/-- Remove a workspace from a draft if it is there. -/
def dropIfThere (draft : Draft) (id : WorkspaceId) : Draft :=
  if draft.tables.workspaces.contains id then draft.dropWorkspace id else draft

/-- Removing whatever is there of some workspaces always applies. -/
@[simp]
theorem apply_removeWorkspaces {ids : List WorkspaceId} :
    (removeWorkspaces .none ids).apply d = .ok d' ↔ d' = ids.foldl dropIfThere d := by
  rw [apply_of_refusal?_eq_none (by simp [refusal?, writes])]
  exact ok_eq_ok_comm

/-- A user is saved exactly when no other user has their address. -/
@[simp]
theorem apply_saveUser {user : User} :
    (saveUser user).apply d = .ok d' ↔
      (∀ key other, d.tables.users.get? key = some other → other.id ≠ user.id →
        other.email ≠ user.email) ∧ d' = d.putUser user := by
  refine refusing_eq_ok.trans (and_congr_left' ?_)
  simp [Table.forall_mem_values]

/-- A user is removed exactly when they are there. -/
@[simp]
theorem apply_removeUser {id : UserId} :
    (removeUser id).apply d = .ok d' ↔
      d.tables.users.contains id = true ∧ d' = d.dropUser id := by
  rw [← Bool.not_eq_false']
  exact refusing_eq_ok

/-- An access role is saved exactly when no other role has its name. -/
@[simp]
theorem apply_saveRole {role : AccessRole} :
    (saveRole role).apply d = .ok d' ↔
      (∀ key other, d.tables.roles.get? key = some other → other.id ≠ role.id →
        other.name ≠ role.name) ∧ d' = d.putRole role := by
  refine refusing_eq_ok.trans (and_congr_left' ?_)
  simp [Table.forall_mem_values]

/-- An access role is removed exactly when it is there. -/
@[simp]
theorem apply_removeRole {id : RoleId} :
    (removeRole id).apply d = .ok d' ↔
      d.tables.roles.contains id = true ∧ d' = d.dropRole id := by
  rw [← Bool.not_eq_false']
  exact refusing_eq_ok

/-- A permittable is saved exactly when its user has no other one. -/
@[simp]
theorem apply_savePermittable {p : Permittable} :
    (savePermittable p).apply d = .ok d' ↔
      (∀ key other, d.tables.permittables.get? key = some other → other.id ≠ p.id →
        other.user ≠ p.user) ∧ d' = d.putPermittable p := by
  refine refusing_eq_ok.trans (and_congr_left' ?_)
  simp [Table.forall_mem_values]

/-- A permittable is removed exactly when it is there. -/
@[simp]
theorem apply_removePermittable {id : PermittableId} :
    (removePermittable id).apply d = .ok d' ↔
      d.tables.permittables.contains id = true ∧ d' = d.dropPermittable id := by
  rw [← Bool.not_eq_false']
  exact refusing_eq_ok

end Command

/-! ## Drafts and the tables they were begun on -/

/-- A draft differs from some tables in the rows it touched only. -/
structure Draft.Tracks (draft : Draft) (base : Tables) : Prop where
  workspaces : Table.AgreeOff draft.touched.workspaces draft.tables.workspaces base.workspaces
  users : Table.AgreeOff draft.touched.users draft.tables.users base.users
  roles : Table.AgreeOff draft.touched.roles draft.tables.roles base.roles
  permittables :
    Table.AgreeOff draft.touched.permittables draft.tables.permittables base.permittables

namespace Draft.Tracks

variable {draft draft' : Draft} {base : Tables}

/-- A draft begun on some tables has touched nothing. -/
theorem begun (base : Tables) : Draft.Tracks { tables := base } base :=
  ⟨fun _ _ => rfl, fun _ _ => rfl, fun _ _ => rfl, fun _ _ => rfl⟩

theorem putWorkspace (h : draft.Tracks base) (ws : Workspace) :
    (draft.putWorkspace ws).Tracks base :=
  { h with workspaces := h.workspaces.insert ws.id ws }

theorem dropWorkspace (h : draft.Tracks base) (id : WorkspaceId) :
    (draft.dropWorkspace id).Tracks base :=
  { h with workspaces := h.workspaces.erase id }

/-- Every command keeps to the rows it touches. -/
theorem change {command : Command} (h : draft.Tracks base)
    (hchange : command.change draft = .ok draft') : draft'.Tracks base := by
  cases command with
  | createWorkspace filter ws =>
    obtain ⟨-, rfl⟩ := refusing_eq_ok.1 hchange
    exact h.putWorkspace ws
  | saveWorkspaces filter workspaces =>
    obtain rfl := ok_eq_ok_comm.1 hchange
    exact List.foldlRecOn (motive := (Draft.Tracks · base)) workspaces _ h
      fun _ hd ws _ => hd.putWorkspace ws
  | removeWorkspace filter id =>
    obtain ⟨-, rfl⟩ := refusing_eq_ok.1 hchange
    exact h.dropWorkspace id
  | removeWorkspaces filter ids =>
    obtain rfl := ok_eq_ok_comm.1 hchange
    refine List.foldlRecOn (motive := (Draft.Tracks · base)) ids _ h fun d hd id _ => ?_
    split
    · exact hd.dropWorkspace id
    · exact hd
  | saveUser user =>
    obtain ⟨-, rfl⟩ := refusing_eq_ok.1 hchange
    exact { h with users := h.users.insert user.id user }
  | removeUser id =>
    obtain ⟨-, rfl⟩ := refusing_eq_ok.1 hchange
    exact { h with users := h.users.erase id }
  | saveRole role =>
    obtain ⟨-, rfl⟩ := refusing_eq_ok.1 hchange
    exact { h with roles := h.roles.insert role.id role }
  | removeRole id =>
    obtain ⟨-, rfl⟩ := refusing_eq_ok.1 hchange
    exact { h with roles := h.roles.erase id }
  | savePermittable p =>
    obtain ⟨-, rfl⟩ := refusing_eq_ok.1 hchange
    exact { h with permittables := h.permittables.insert p.id p }
  | removePermittable id =>
    obtain ⟨-, rfl⟩ := refusing_eq_ok.1 hchange
    exact { h with permittables := h.permittables.erase id }

/-- Running a program keeps to the rows that its commands touch. -/
theorem onDraft {α : Type} (program : Program α) (ids : Nat → String) (drawn : Nat)
    (h : draft.Tracks base) : (program.onDraft ids draft drawn).2.1.Tracks base := by
  induction program generalizing draft drawn with
  | finish outcome => exact h
  | ask query next ih => exact ih _ drawn h
  | tell command next ih =>
    simp only [Program.onDraft]
    cases happly : command.apply draft with
    | ok draft' => exact ih _ drawn (h.change (Command.change_of_apply happly))
    | error error => exact ih _ drawn h
  | draw next ih => exact ih _ _ h

/-- Laid over the tables it was begun on, a draft gives its own tables. -/
theorem layOver_eq (h : draft.Tracks base) : draft.layOver base = draft.tables := by
  simp only [Draft.layOver, h.workspaces.overlay_eq, h.users.overlay_eq, h.roles.overlay_eq,
    h.permittables.overlay_eq]

end Draft.Tracks

end Roster
