import Roster.Access.Policy
import Roster.Store.Usecase

/-!
# Permission checks

What a user may do follows from the names of the access roles they hold, everywhere and in the
workspace of the resource, and from the policy.
-/

namespace Roster.Permissions

/-- The names of the access roles that count for a user on a resource. -/
def resolveRoles (user : UserId) (resource : Resource) : Action (List String) :=
  Usecase.runPlain do
    match ← Program.queryOptional (.permittableOf user) with
    | none => return []
    | some p =>
      let roles ← Program.query (.rolesWithIds (p.effectiveRoles resource.workspace))
      return roles.map AccessRole.name

/-- Whether the policy lets a user take an action on a resource. -/
def check (policy : Policy) (user : UserId) (resource : Resource) (action : String) :
    Action Bool := do
  return policy.allows (← resolveRoles user resource) resource.kind action

end Roster.Permissions
