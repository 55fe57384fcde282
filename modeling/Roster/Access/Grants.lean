import Roster.Error

/-!
# Access roles and who holds them

An access role is a name that policy rules speak about. A permittable lists the access roles that
one user holds, everywhere or within one workspace.
-/

namespace Roster

/-- A named role that policy rules refer to. -/
structure AccessRole where
  id : RoleId
  name : String
  deriving DecidableEq, Repr

namespace AccessRole

/-- The name without blank ends; a blank name is refused. -/
def checkName (name : String) : Except Error String :=
  let trimmed := Text.trim name
  if trimmed.isEmpty then .error (.invalidParameter "role name is required") else .ok trimmed

/-- A new role. -/
def create (id : RoleId) (name : String) : Except Error AccessRole := do
  return { id, name := ← checkName name }

/-- Give the role another name. -/
def rename (role : AccessRole) (name : String) : Except Error AccessRole := do
  return { role with name := ← checkName name }

end AccessRole

/-- An access role held within one workspace. -/
structure Binding where
  workspace : WorkspaceId
  role : RoleId
  deriving DecidableEq, Repr

/-- The access roles a user holds. -/
structure Permittable where
  id : PermittableId
  user : UserId
  /-- The roles held everywhere. -/
  roles : List RoleId
  /-- The roles held within single workspaces. -/
  bindings : List Binding
  deriving DecidableEq, Repr

namespace Permittable

/-- The permittable of a user who holds some roles everywhere. -/
def create (id : PermittableId) (user : UserId) (roles : List RoleId) : Permittable :=
  { id, user, roles := distinct roles, bindings := [] }

/-- Replace the roles held everywhere. -/
def setRoles (p : Permittable) (roles : List RoleId) : Permittable :=
  { p with roles := distinct roles }

/-- Bind a role to a workspace unless it is bound already; tells whether it was added. -/
def addBinding (p : Permittable) (binding : Binding) : Permittable × Bool :=
  if binding ∈ p.bindings then (p, false)
  else ({ p with bindings := p.bindings ++ [binding] }, true)

/-- How many roles and bindings are listed. -/
def weight (p : Permittable) : Nat :=
  p.roles.length + p.bindings.length

/-- Drop a role wherever it is listed; tells whether anything was dropped. -/
def removeRole (p : Permittable) (role : RoleId) : Permittable × Bool :=
  let rest := { p with
    roles := p.roles.filter (· ≠ role)
    bindings := p.bindings.filter (·.role ≠ role) }
  (rest, rest.weight ≠ p.weight)

/-- Drop the bindings to a workspace; tells whether anything was dropped. -/
def removeWorkspace (p : Permittable) (workspace : WorkspaceId) : Permittable × Bool :=
  let rest := { p with bindings := p.bindings.filter (·.workspace ≠ workspace) }
  (rest, rest.weight ≠ p.weight)

/-- Whether a role is listed anywhere. -/
def hasRole (p : Permittable) (role : RoleId) : Bool :=
  role ∈ p.roles || p.bindings.any (·.role = role)

/-- The roles that hold everywhere and, if a workspace is given, those bound to it. -/
def effectiveRoles (p : Permittable) (workspace : Option WorkspaceId) : List RoleId :=
  distinct (p.roles ++
    (p.bindings.filter fun binding => some binding.workspace = workspace).map Binding.role)

end Permittable

end Roster
