import Roster.Members
import Roster.Time.Instant

/-!
# Workspaces

A workspace has a name, members and a policy, and knows when it last changed. It is personal when
its users are fixed, and then it has one user, who owns it. Each change stamps the workspace with
the time; a change that is refused leaves it as it was.
-/

namespace Roster

open Time (Instant)

/-- What a workspace says about itself. -/
structure WorkspaceProfile where
  description : String := ""
  website : String := ""
  location : String := ""
  billingEmail : String := ""
  photoUrl : String := ""
  deriving DecidableEq, Repr, Inhabited

/-- A group of members that work together, or the place of a single user. -/
structure Workspace where
  id : WorkspaceId
  name : String
  aliasName : String
  email : String
  profile : WorkspaceProfile
  members : Members
  policy : Option PolicyId
  updatedAt : Instant
  deriving DecidableEq, Repr

/-- What is known of a workspace before it is built. -/
structure Workspace.Plan where
  id : Option WorkspaceId := none
  name : Option String := none
  aliasName : String := ""
  email : String := ""
  profile : WorkspaceProfile := {}
  members : Option Members := none
  owner : Option UserId := none
  personal : Bool := false
  policy : Option PolicyId := none
  updatedAt : Option Instant := none

namespace Workspace

/-- The name of a workspace that was given none. -/
def untitled : String := "Untitled Workspace"

/-- The name without blank ends, or the name of untitled workspaces. -/
def titled (name : String) : String :=
  let trimmed := Text.trim name
  if trimmed.isEmpty then untitled else trimmed

/-- Whether members may be those of a personal workspace: one user, who is an owner. -/
def soleOwner (members : Members) : Bool :=
  members.count = 1 && (members.usersByRole .owner).length = 1

/-- The members a plan asks for. -/
def Plan.chosenMembers (plan : Plan) : Except Error Members :=
  match plan.members, plan.owner with
  | some members, _ => .ok { members with fixed := plan.personal }
  | none, some owner => .ok (.ofOwner owner plan.personal)
  | none, none =>
    if plan.personal then .error (.invalidParameter "personal workspace requires an owner")
    else .ok .empty

/-- Build the workspace of a plan. -/
def Plan.build (plan : Plan) (now : Instant) : Except Error Workspace := do
  let some id := plan.id | throw .invalidId
  if id.text.isEmpty then throw .invalidId
  let members ← plan.chosenMembers
  if plan.personal && !soleOwner members then
    throw (.invalidParameter "personal workspace must have exactly one owner")
  return {
    id
    name := titled (plan.name.getD "")
    aliasName := plan.aliasName
    email := plan.email
    profile := plan.profile
    members
    policy := plan.policy
    updatedAt := plan.updatedAt.getD now }

/-- Whether the workspace belongs to a single user. -/
def isPersonal (ws : Workspace) : Bool :=
  ws.members.fixed

/--
The workspace as it is taken from storage: it needs an id and, if it is personal, a sole owner,
and its name loses its blank ends.
-/
def restore (ws : Workspace) : Except Error Workspace := do
  if ws.id.text.isEmpty then throw .invalidId
  if ws.isPersonal && !soleOwner ws.members then
    throw (.invalidParameter "personal workspace must have exactly one owner")
  return { ws with name := titled ws.name }

/-! ## Changes -/

variable (now : Instant)

/-- Give the workspace another name, verbatim. -/
def rename (ws : Workspace) (name : String) : Workspace :=
  { ws with name, updatedAt := now }

/-- Give the workspace another alias. -/
def updateAlias (ws : Workspace) (aliasName : String) : Workspace :=
  { ws with aliasName, updatedAt := now }

/-- Give the workspace another e-mail address. -/
def updateEmail (ws : Workspace) (email : String) : Workspace :=
  { ws with email, updatedAt := now }

/-- Replace what the workspace says about itself. -/
def updateProfile (ws : Workspace) (profile : WorkspaceProfile) : Workspace :=
  { ws with profile, updatedAt := now }

/-- Put the workspace under a policy, or under none. -/
def setPolicy (ws : Workspace) (policy : Option PolicyId) : Workspace :=
  { ws with policy, updatedAt := now }

/-- Change the members, and stamp the workspace if they allow it. -/
def changeMembers (ws : Workspace) (change : Members → Except Error Members) :
    Except Error Workspace := do
  return { ws with members := ← change ws.members, updatedAt := now }

/-- A user joins. -/
def join (ws : Workspace) (user : UserId) (role : Option Role) (invitedBy : UserId) :
    Except Error Workspace :=
  ws.changeMembers now (·.join user role invitedBy)

/-- A user leaves. -/
def leave (ws : Workspace) (user : UserId) : Except Error Workspace :=
  ws.changeMembers now (·.leave user)

/-- A user gets another role. -/
def updateUserRole (ws : Workspace) (user : UserId) (role : Role) : Except Error Workspace :=
  ws.changeMembers now (·.updateUserRole user role)

/-- An integration is installed. -/
def addIntegration (ws : Workspace) (integration : IntegrationId) (role : Option Role)
    (invitedBy : UserId) : Except Error Workspace :=
  ws.changeMembers now (·.addIntegration integration role invitedBy)

/-- An integration gets another role. -/
def updateIntegrationRole (ws : Workspace) (integration : IntegrationId) (role : Role) :
    Except Error Workspace :=
  ws.changeMembers now (·.updateIntegrationRole integration role)

/-- An integration is taken out. -/
def deleteIntegration (ws : Workspace) (integration : IntegrationId) : Except Error Workspace :=
  ws.changeMembers now (·.deleteIntegration integration)

/-- Integrations are taken out, all of them or none. -/
def deleteIntegrations (ws : Workspace) (integrations : List IntegrationId) :
    Except Error Workspace :=
  ws.changeMembers now (·.deleteIntegrations integrations)

end Workspace

end Roster
