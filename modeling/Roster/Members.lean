import Roster.Role
import Roster.Table

/-!
# Members of a workspace

A workspace has users and integrations as members, each with a role. The users of a personal
workspace are fixed: nobody joins, leaves or changes role, while integrations come and go.
-/

namespace Roster

/-- The membership of one user or integration. -/
structure Member where
  role : Role
  /-- Whether the membership is suspended. -/
  disabled : Bool
  /-- Who brought the member in. -/
  invitedBy : UserId
  /-- The host the member lives on, for those from elsewhere. -/
  host : Option String
  deriving DecidableEq, Repr

/-- An enabled membership without a host. -/
def Member.new (role : Role) (invitedBy : UserId) : Member :=
  { role, disabled := false, invitedBy, host := none }

/-- The users and integrations of a workspace. -/
structure Members where
  users : Table .user Member
  integrations : Table .integration Member
  /-- Whether the users are fixed. -/
  fixed : Bool
  deriving DecidableEq, Repr

namespace Members

/-- Nobody. -/
def empty : Members := ⟨∅, ∅, false⟩

/-- One owner, invited by nobody else. -/
def ofOwner (owner : UserId) (fixed : Bool) : Members :=
  ⟨Table.empty.insert owner (.new .owner owner), ∅, fixed⟩

/-! ## Questions -/

/-- The ids of the users, the last one first. -/
def userIds (members : Members) : List UserId :=
  members.users.keys.reverse

/-- The ids of the integrations, the last one first. -/
def integrationIds (members : Members) : List IntegrationId :=
  members.integrations.keys.reverse

/-- The number of users. -/
def count (members : Members) : Nat :=
  members.users.size

/-- The role of a user. -/
def userRole? (members : Members) (user : UserId) : Option Role :=
  (members.users.get? user).map Member.role

/-- The role of an integration. -/
def integrationRole? (members : Members) (integration : IntegrationId) : Option Role :=
  (members.integrations.get? integration).map Member.role

/-- The ids of the users with a role, the last one first. -/
def usersByRole (members : Members) (role : Role) : List UserId :=
  ((members.users.rows.filter fun entry => entry.2.role = role).map (·.1)).reverse

/-- Whether a user is the one owner there is. -/
def isOnlyOwner (members : Members) (user : UserId) : Bool :=
  members.usersByRole .owner = [user]

/-- Whether a user is a maintainer or an owner. -/
def isOwnerOrMaintainer (members : Members) (user : UserId) : Bool :=
  (members.userRole? user).any (Role.includes · .maintainer)

/-! ## Changes -/

/-- A user joins, as a reader unless a role is given. -/
def join (members : Members) (user : UserId) (role : Option Role) (invitedBy : UserId) :
    Except Error Members := do
  if members.fixed then throw .personalWorkspaceImmutable
  if members.users.contains user then throw .alreadyJoined
  return { members with users := members.users.insert user (.new (role.getD .reader) invitedBy) }

/-- A user leaves. -/
def leave (members : Members) (user : UserId) : Except Error Members := do
  if members.fixed then throw .personalWorkspaceImmutable
  if !members.users.contains user then throw .userNotInWorkspace
  return { members with users := members.users.erase user }

/-- A user gets another role and keeps the rest of the membership. -/
def updateUserRole (members : Members) (user : UserId) (role : Role) : Except Error Members := do
  if members.fixed then throw .personalWorkspaceImmutable
  match members.users.get? user with
  | none => throw .userNotInWorkspace
  | some member => return { members with users := members.users.insert user { member with role } }

/-- An integration is installed, as a reader unless a role is given. -/
def addIntegration (members : Members) (integration : IntegrationId) (role : Option Role)
    (invitedBy : UserId) : Except Error Members := do
  if members.integrations.contains integration then throw .integrationAlreadyJoined
  return { members with
    integrations := members.integrations.insert integration (.new (role.getD .reader) invitedBy) }

/-- An integration is taken out. -/
def deleteIntegration (members : Members) (integration : IntegrationId) :
    Except Error Members := do
  if !members.integrations.contains integration then throw .integrationNotInWorkspace
  return { members with integrations := members.integrations.erase integration }

/-- Integrations are taken out, all of them or none. -/
def deleteIntegrations (members : Members) (integrations : List IntegrationId) :
    Except Error Members := do
  let missing := (distinct integrations).filter fun id => !members.integrations.contains id
  if !missing.isEmpty then throw (.integrationsNotInWorkspace missing)
  return { members with
    integrations := (distinct integrations).foldl Table.erase members.integrations }

/-- An integration gets another role and keeps the rest of the membership. -/
def updateIntegrationRole (members : Members) (integration : IntegrationId) (role : Role) :
    Except Error Members := do
  match members.integrations.get? integration with
  | none => throw .integrationNotInWorkspace
  | some member =>
    return { members with
      integrations := members.integrations.insert integration { member with role } }

end Members

end Roster
