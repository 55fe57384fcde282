import Roster.Store.Usecase

/-!
# Operations on access roles

Access roles are created, renamed and removed. No two of them share a name, and a role that is
removed is taken from everyone who holds it.
-/

namespace Roster.AccessRoles

/-- Fail if another access role than the excepted one has a name. -/
def nameFree (name : String) (except : Option RoleId) : Program Unit :=
  .refuseTaken (.roleNamed name) (some ·.id ≠ except) (.alreadyExists ("role " ++ name))

/-- All access roles in the order of their names. -/
def all : Action (List AccessRole) :=
  Usecase.runPlain (.query .roles)

/-- Create an access role. -/
def create (name : String) : Action AccessRole := do
  let id ← Action.drawId
  let role ← Action.ofExcept (AccessRole.create id name)
  Usecase.run { transactional := true } none do
    nameFree role.name none
    Program.command (.saveRole role)
    return role

/-- Give an access role another name. -/
def update (id : RoleId) (name : String) : Action AccessRole :=
  Usecase.run { transactional := true } none do
    let role ← Program.query (.role id)
    let role ← Program.ofExcept (role.rename name)
    nameFree role.name (some id)
    Program.command (.saveRole role)
    return role

/-- Remove an access role and take it from everyone who holds it. -/
def remove (id : RoleId) : Action Unit :=
  Usecase.run { transactional := true } none do
    let _ ← Program.query (.role id)
    for p in ← .query (.holdersOf id) do
      Program.command (.savePermittable (p.removeRole id).1)
    Program.command (.removeRole id)

end Roster.AccessRoles
