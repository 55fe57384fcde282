import Roster.Http.Handler
import Roster.Http.Payload
import Roster.Http.Route
import Roster.Service.AccessRoles
import Roster.Service.Permissions

/-!
# What the routes do

Each route answers some methods. Segments of the path are read first, then the body, and only then
does the operation itself begin. Access roles may be changed by callers whom the policy lets
manage roles.
-/

namespace Roster.Http

/-- Let a caller pass whom the policy lets manage access roles. -/
def mayManageRoles (service : Service) (caller : Caller) : Handler Unit := do
  let user ← caller.signedUp
  let allowed ← Permissions.check service.policy user.id { kind := "role" } "manage"
  if !allowed then throw (.failure 403 "operation_denied" "not allowed to manage roles")

/-- A workspace as the answer to a request. -/
def answerWorkspace (action : Action Workspace) : Handler Response := do
  return .ok (workspaceView (← action))

/-! ## Accounts -/

/-- Sign the token's subject up, or find the account there is. -/
def signup (service : Service) (caller : Caller) : Handler Response := do
  let claims := caller.claims
  let (user, ws) ←
    Accounts.signupSubject service.defaultPolicy claims.subject claims.email claims.name
  return .ok (signupView user ws)

/-- What is stored about the caller. -/
def getMe (caller : Caller) : Handler Response := do
  return .ok (← caller.signedUp).json

/-- Change what is stored about the caller. -/
def updateMe (caller : Caller) (request : Request) : Handler Response := do
  let change ← request.read UserChange.record
  return .ok (← Accounts.updateMe change caller.operator).json

/-- Remove the caller. -/
def deleteMe (caller : Caller) : Handler Response := do
  Accounts.removeMe caller.operator
  return .noContent

/-! ## Workspaces -/

/-- The workspaces of the caller. -/
def listWorkspaces (caller : Caller) : Handler Response := do
  let user ← caller.signedUp
  let workspaces ← Workspaces.findByUser user.id caller.operator
  return .ok (.array (workspaces.map workspaceView))

/-- Create a workspace that the caller owns. -/
def createWorkspace (caller : Caller) (request : Request) : Handler Response := do
  let (name, aliasName) ← request.read newWorkspace
  let user ← caller.signedUp
  let (ws, _) ← Workspaces.create name aliasName user.id caller.operator
  return .created (workspaceView ws)

/-- One workspace. -/
def getWorkspace (caller : Caller) (id : WorkspaceId) : Handler Response := do
  match ← Workspaces.fetch [id] caller.operator with
  | ws :: _ => return .ok (workspaceView ws)
  | [] => throw (.failure 404 "not_found" "workspace not found")

/-- Change a workspace. -/
def updateWorkspace (caller : Caller) (request : Request) (id : WorkspaceId) :
    Handler Response := do
  let change ← request.read WorkspaceChange.record
  answerWorkspace (Workspaces.update id change caller.operator)

/-- Remove a workspace. -/
def deleteWorkspace (caller : Caller) (id : WorkspaceId) : Handler Response := do
  Workspaces.remove id caller.operator
  return .noContent

/-- Make another member the owner of a workspace. -/
def transferOwnership (caller : Caller) (request : Request) (id : WorkspaceId) :
    Handler Response := do
  let newOwner ← request.read userField
  answerWorkspace (Workspaces.transferOwnership id newOwner caller.operator)

/-! ## Members -/

/-- Add users to a workspace. -/
def addMembers (caller : Caller) (request : Request) (id : WorkspaceId) : Handler Response := do
  let users ← request.read newMembers
  answerWorkspace (Workspaces.addUserMember id users caller.operator)

/-- Take users out of a workspace. -/
def removeMembers (caller : Caller) (request : Request) (id : WorkspaceId) :
    Handler Response := do
  let users ← request.read usersField
  answerWorkspace (Workspaces.removeMultipleUserMembers id users caller.operator)

/-- Give a user another role in a workspace. -/
def updateMember (caller : Caller) (request : Request) (id : WorkspaceId) (user : UserId) :
    Handler Response := do
  let role ← request.read roleField
  answerWorkspace (Workspaces.updateUserMember id user role caller.operator)

/-- Take a user out of a workspace. -/
def removeMember (caller : Caller) (id : WorkspaceId) (user : UserId) : Handler Response :=
  answerWorkspace (Workspaces.removeUserMember id user caller.operator)

/-- Add an integration to a workspace. -/
def addIntegration (caller : Caller) (request : Request) (id : WorkspaceId) :
    Handler Response := do
  let (integration, role) ← request.read newIntegration
  answerWorkspace (Workspaces.addIntegrationMember id integration role caller.operator)

/-- Take integrations out of a workspace. -/
def removeIntegrations (caller : Caller) (request : Request) (id : WorkspaceId) :
    Handler Response := do
  let integrations ← request.read integrationsField
  answerWorkspace (Workspaces.removeIntegrations id integrations caller.operator)

/-- Give an integration another role in a workspace. -/
def updateIntegration (caller : Caller) (request : Request) (id : WorkspaceId)
    (integration : IntegrationId) : Handler Response := do
  let role ← request.read roleField
  answerWorkspace (Workspaces.updateIntegrationMember id integration role caller.operator)

/-- Take an integration out of a workspace. -/
def removeIntegration (caller : Caller) (id : WorkspaceId) (integration : IntegrationId) :
    Handler Response :=
  answerWorkspace (Workspaces.removeIntegration id integration caller.operator)

/-! ## Access roles -/

/-- All access roles. -/
def listRoles (caller : Caller) : Handler Response := do
  let _ ← caller.signedUp
  return .ok (.array ((← AccessRoles.all).map AccessRole.json))

/-- Create an access role. -/
def createRole (service : Service) (caller : Caller) (request : Request) : Handler Response := do
  let name ← request.read nameField
  mayManageRoles service caller
  return .created (← AccessRoles.create name).json

/-- Give an access role another name. -/
def renameRole (service : Service) (caller : Caller) (request : Request) (id : RoleId) :
    Handler Response := do
  let name ← request.read nameField
  mayManageRoles service caller
  return .ok (← AccessRoles.update id name).json

/-- Remove an access role. -/
def deleteRole (service : Service) (caller : Caller) (id : RoleId) : Handler Response := do
  mayManageRoles service caller
  AccessRoles.remove id
  return .noContent

/-- The users who hold access roles. -/
def listPermittables (service : Service) (caller : Caller) : Handler Response := do
  mayManageRoles service caller
  return .ok (.array ((← Grants.holders).map RoleHolder.json))

/-- Grant roles one after another within a workspace; the last grant is the answer. -/
def grantWithin (user : UserId) (workspace : WorkspaceId) :
    List RoleId → Option Permittable → Handler (Option Permittable)
  | [], latest => return latest
  | role :: rest, _ => do
    let p ← Grants.addWorkspaceRole user workspace role
    grantWithin user workspace rest (some p)

/-- Give a user access roles, everywhere or within one workspace. -/
def updatePermittable (service : Service) (caller : Caller) (request : Request) (user : UserId) :
    Handler Response := do
  let (roles, workspace) ← request.read newGrants
  mayManageRoles service caller
  match workspace with
  | some workspace =>
    match ← grantWithin user workspace roles none with
    | some p => return .ok p.json
    | none => throw (.failure 400 "invalid_parameter" "role_ids must not be empty")
  | none => return .ok (← Grants.updatePermittable user roles).json

/-- Tell callers what they may do. -/
def authorize (service : Service) (caller : Caller) (request : Request) : Handler Response := do
  let (resource, action) ← request.read permissionRequest
  let user ← caller.signedUp
  let allowed ← Permissions.check service.policy user.id resource action
  return .ok (.record [("allowed", .bool allowed)])

/-! ## Dispatch -/

/-- What a method does at a route, if anything. -/
def endpoint? (service : Service) (caller : Caller) (request : Request) :
    Route → Method → Option (Handler Response)
  | .signup, .post => some (signup service caller)
  | .me, .get => some (getMe caller)
  | .me, .patch => some (updateMe caller request)
  | .me, .delete => some (deleteMe caller)
  | .workspaces, .get => some (listWorkspaces caller)
  | .workspaces, .post => some (createWorkspace caller request)
  | .workspace id, .get => some do getWorkspace caller (← idIn id)
  | .workspace id, .patch => some do updateWorkspace caller request (← idIn id)
  | .workspace id, .delete => some do deleteWorkspace caller (← idIn id)
  | .transfer id, .post => some do transferOwnership caller request (← idIn id)
  | .members id, .post => some do addMembers caller request (← idIn id)
  | .membersRemove id, .post => some do removeMembers caller request (← idIn id)
  | .member id user, .put => some do updateMember caller request (← idIn id) (← idIn user)
  | .member id user, .delete => some do removeMember caller (← idIn id) (← idIn user)
  | .integrations id, .post => some do addIntegration caller request (← idIn id)
  | .integrationsRemove id, .post => some do removeIntegrations caller request (← idIn id)
  | .integration id name, .put => some do
    updateIntegration caller request (← idIn id) (← idIn name)
  | .integration id name, .delete => some do removeIntegration caller (← idIn id) (← idIn name)
  | .roles, .get => some (listRoles caller)
  | .roles, .post => some (createRole service caller request)
  | .role id, .patch => some do renameRole service caller request (← idIn id)
  | .role id, .delete => some do deleteRole service caller (← idIn id)
  | .permittables, .get => some (listPermittables service caller)
  | .permittable user, .put => some do updatePermittable service caller request (← idIn user)
  | .authorize, .post => some (authorize service caller request)
  | _, _ => none

/-- Find out who calls, and do what the method does at the route. -/
def Service.dispatch (service : Service) (request : Request) (route : Route) :
    Handler Response := do
  let caller ← service.authenticate request.authorization
  match endpoint? service caller request route (Method.ofName request.method).carriedOut with
  | some handler => handler
  | none => throw ⟨405, .nothing⟩

/-- Answer a request for what its path leads to. -/
def Service.answerAt (service : Service) (request : Request) (moment : Moment)
    (directory : Directory) : Option Target → Response × Directory
  | none => (⟨404, .nothing⟩, directory)
  | some .health =>
    match (Method.ofName request.method).carriedOut with
    | .get => (⟨200, .text "OK"⟩, directory)
    | _ => (⟨405, .nothing⟩, directory)
  | some (.route route) => (service.dispatch request route).respond moment directory

/-- Answer a request; a request for the head gets no content. -/
def Service.answer (service : Service) (request : Request) (moment : Moment)
    (directory : Directory) : Response × Directory :=
  let (response, directory) :=
    service.answerAt request moment directory (Target.ofPath? request.path)
  match Method.ofName request.method with
  | .head => (response.headOnly, directory)
  | _ => (response, directory)

end Roster.Http
