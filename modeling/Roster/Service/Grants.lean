import Roster.Store.Usecase

/-!
# Granting access roles

Users are given access roles, everywhere or within one workspace. A user gets a permittable with
the first role they are given.
-/

namespace Roster

/-- A user with the access roles they hold everywhere. -/
structure RoleHolder where
  user : User
  roles : List AccessRole
  deriving DecidableEq, Repr

namespace Grants

/-- Fail if one of some access roles does not exist. -/
def rolesExist (ids : List RoleId) : Program Unit := do
  let roles ← Program.query (.rolesWithIds ids)
  if let some missing := ids.find? fun id => !roles.any (·.id = id) then
    throw (.notFound ("role " ++ missing.text))

/-- Replace the access roles that a user holds everywhere. -/
def updatePermittable (user : UserId) (roles : List RoleId) : Action Permittable :=
  let roles := distinct roles
  Usecase.run { transactional := true } none do
    let _ ← Program.query (.user user)
    rolesExist roles
    let p ← match ← Program.queryOptional (.permittableOf user) with
      | some p => pure (p.setRoles roles)
      | none => pure (.create (← Program.drawId) user roles)
    Program.command (.savePermittable p)
    return p

/-- Give a user an access role within one workspace. -/
def addWorkspaceRole (user : UserId) (workspace : WorkspaceId) (role : RoleId) :
    Action Permittable :=
  Usecase.run { transactional := true } none do
    let _ ← Program.query (.user user)
    let _ ← Program.query (.workspace .none workspace)
    let _ ← Program.query (.role role)
    let p ← match ← Program.queryOptional (.permittableOf user) with
      | some p => pure p
      | none => pure (.create (← Program.drawId) user [])
    let (p, added) := p.addBinding { workspace, role }
    if added then Program.command (.savePermittable p)
    return p

/-- The access roles that a user holds everywhere, as the permittables list them. -/
def rolesHeld (permittables : List Permittable) (roles : List AccessRole) (user : User) :
    List AccessRole :=
  match permittables.find? (·.user = user.id) with
  | some p => roles.filter (·.id ∈ p.roles)
  | none => []

/-- The users who hold an access role everywhere, in the order of their names. -/
def holders : Action (List RoleHolder) :=
  Usecase.runPlain do
    let permittables ← Program.query .permittables
    let users ← Program.query (.users (permittables.map Permittable.user))
    let roles ← Program.query .roles
    let holders := users.map fun user => { user, roles := rolesHeld permittables roles user }
    return sortByName (·.user.name) (holders.filter (!·.roles.isEmpty))

end Grants

end Roster
