import Roster.Store.Query

/-!
# Changes to the tables

A command files or removes records. Commands on workspaces are refused before any table is looked
at when the filter forbids one of the workspaces. Users, access roles and permittables each have a
key that two records may not share.
-/

namespace Roster

/-- A change to the tables. -/
inductive Command
  /-- File a workspace under a key that is free. -/
  | createWorkspace (filter : Filter) (ws : Workspace)
  | saveWorkspaces (filter : Filter) (workspaces : List Workspace)
  | removeWorkspace (filter : Filter) (id : WorkspaceId)
  /-- Remove the workspaces that are there and pass over the others. -/
  | removeWorkspaces (filter : Filter) (ids : List WorkspaceId)
  | saveUser (user : User)
  | removeUser (id : UserId)
  | saveRole (role : AccessRole)
  | removeRole (id : RoleId)
  | savePermittable (permittable : Permittable)
  | removePermittable (id : PermittableId)

namespace Command

/-- The workspaces that a command writes or removes, under the filter it goes through. -/
def writes : Command → Filter × List WorkspaceId
  | createWorkspace filter ws => (filter, [ws.id])
  | saveWorkspaces filter workspaces => (filter, workspaces.map Workspace.id)
  | removeWorkspace filter id => (filter, [id])
  | removeWorkspaces filter ids => (filter, ids)
  | _ => (.none, [])

/-- The error of a command that needs no table to be refused, if there is one. -/
def refusal? (command : Command) : Option Error :=
  let (filter, ids) := command.writes
  if ids.all filter.canWrite then none else some .operationDenied

/-- Make the change on a draft. -/
def change : Command → Draft → Except Error Draft
  | createWorkspace _ ws, draft => do
    if draft.tables.workspaces.contains ws.id then
      throw (.alreadyExists ("workspace " ++ ws.id.text))
    return draft.putWorkspace ws
  | saveWorkspaces _ workspaces, draft => .ok (workspaces.foldl Draft.putWorkspace draft)
  | removeWorkspace _ id, draft => do
    if !draft.tables.workspaces.contains id then throw (.notFound ("workspace " ++ id.text))
    return draft.dropWorkspace id
  | removeWorkspaces _ ids, draft =>
    .ok (ids.foldl
      (fun draft id =>
        if draft.tables.workspaces.contains id then draft.dropWorkspace id else draft)
      draft)
  | saveUser user, draft => do
    if draft.tables.users.values.any fun u => u.id ≠ user.id && u.email = user.email then
      throw (.alreadyExists ("email " ++ user.email))
    return draft.putUser user
  | removeUser id, draft => do
    if !draft.tables.users.contains id then throw (.notFound ("user " ++ id.text))
    return draft.dropUser id
  | saveRole role, draft => do
    if draft.tables.roles.values.any fun r => r.id ≠ role.id && r.name = role.name then
      throw (.alreadyExists ("role " ++ role.name))
    return draft.putRole role
  | removeRole id, draft => do
    if !draft.tables.roles.contains id then throw (.notFound ("role " ++ id.text))
    return draft.dropRole id
  | savePermittable p, draft => do
    if draft.tables.permittables.values.any fun q => q.id ≠ p.id && q.user = p.user then
      throw (.alreadyExists ("permittable for user " ++ p.user.text))
    return draft.putPermittable p
  | removePermittable id, draft => do
    if !draft.tables.permittables.contains id then
      throw (.notFound ("permittable " ++ id.text))
    return draft.dropPermittable id

/-- Carry a command out on a draft. -/
def apply (command : Command) (draft : Draft) : Except Error Draft :=
  match command.refusal? with
  | some error => .error error
  | none => command.change draft

end Command

end Roster
