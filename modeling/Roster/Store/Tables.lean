import Roster.User
import Roster.Workspace
import Roster.Access.Grants

/-!
# The tables of the directory

The directory is four tables. Changes are made on a draft, which is a copy of the tables together
with the keys that were written or removed; laying a draft over other tables moves just the rows
under those keys.
-/

namespace Roster

/-- All records, each table filed under ids. -/
structure Tables where
  workspaces : Table .workspace Workspace := ∅
  users : Table .user User := ∅
  roles : Table .role AccessRole := ∅
  permittables : Table .permittable Permittable := ∅
  deriving DecidableEq

instance : Inhabited Tables := ⟨{}⟩

/-- The keys that were written or removed in each table. -/
structure Touched where
  workspaces : List WorkspaceId := []
  users : List UserId := []
  roles : List RoleId := []
  permittables : List PermittableId := []
  deriving DecidableEq

/-- A copy of the tables with changes of its own. -/
structure Draft where
  tables : Tables
  touched : Touched := {}
  deriving DecidableEq

namespace Draft

variable (draft : Draft)

/-- File a workspace under its id. -/
def putWorkspace (ws : Workspace) : Draft where
  tables := { draft.tables with workspaces := draft.tables.workspaces.insert ws.id ws }
  touched := { draft.touched with workspaces := ws.id :: draft.touched.workspaces }

/-- Remove the workspace under a key. -/
def dropWorkspace (id : WorkspaceId) : Draft where
  tables := { draft.tables with workspaces := draft.tables.workspaces.erase id }
  touched := { draft.touched with workspaces := id :: draft.touched.workspaces }

/-- File a user under their id. -/
def putUser (user : User) : Draft where
  tables := { draft.tables with users := draft.tables.users.insert user.id user }
  touched := { draft.touched with users := user.id :: draft.touched.users }

/-- Remove the user under a key. -/
def dropUser (id : UserId) : Draft where
  tables := { draft.tables with users := draft.tables.users.erase id }
  touched := { draft.touched with users := id :: draft.touched.users }

/-- File an access role under its id. -/
def putRole (role : AccessRole) : Draft where
  tables := { draft.tables with roles := draft.tables.roles.insert role.id role }
  touched := { draft.touched with roles := role.id :: draft.touched.roles }

/-- Remove the access role under a key. -/
def dropRole (id : RoleId) : Draft where
  tables := { draft.tables with roles := draft.tables.roles.erase id }
  touched := { draft.touched with roles := id :: draft.touched.roles }

/-- File a permittable under its id. -/
def putPermittable (p : Permittable) : Draft where
  tables := { draft.tables with permittables := draft.tables.permittables.insert p.id p }
  touched := { draft.touched with permittables := p.id :: draft.touched.permittables }

/-- Remove the permittable under a key. -/
def dropPermittable (id : PermittableId) : Draft where
  tables := { draft.tables with permittables := draft.tables.permittables.erase id }
  touched := { draft.touched with permittables := id :: draft.touched.permittables }

/-- The target with the rows that the draft touched. -/
def layOver (target : Tables) : Tables where
  workspaces := target.workspaces.overlay draft.tables.workspaces draft.touched.workspaces
  users := target.users.overlay draft.tables.users draft.touched.users
  roles := target.roles.overlay draft.tables.roles draft.touched.roles
  permittables := target.permittables.overlay draft.tables.permittables draft.touched.permittables

end Draft

end Roster
