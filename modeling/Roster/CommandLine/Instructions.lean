import Roster.CommandLine.Console
import Roster.CommandLine.Invocation
import Roster.Service.AccessRoles
import Roster.Service.Accounts
import Roster.Service.Grants
import Roster.Service.Permissions

/-!
# Carrying out instructions

Each instruction on the directory says what it has found or changed. Most of them need a user on
whose behalf they are carried out.
-/

namespace Roster.CommandLine

/-- Under what terms instructions are carried out. -/
structure Terms where
  defaultPolicy : Option PolicyId := none
  policy : Policy := []
  dryRun : Bool := false
  acting : Option UserId := none

namespace Terms

variable (terms : Terms)

/-- The acting user as an operator. -/
def operator : Console Operator := do
  match terms.acting with
  | some user => Accounts.operatorFor terms.defaultPolicy user
  | none => throw (.failed "This command needs an acting user: pass --as <user-id>")

/-- Say that something is done. -/
def sayDone (message : String) : Console Unit :=
  Console.say ("✅ " ++ message ++ (if terms.dryRun then " (dry run, nothing saved)" else ""))

end Terms

/-! ## Descriptions -/

/-- The lines that describe a user. -/
def describeUser (user : User) : List String :=
  ["👤 " ++ user.name ++ " <" ++ user.email ++ ">", "   Id: " ++ user.id.text] ++
    user.identities.map fun identity => "   Auth: " ++ identity.subject

/-- The mark of personal workspaces. -/
def personalMark (ws : Workspace) : String :=
  if ws.isPersonal then " (personal)" else ""

/-- The lines that describe a workspace; members are listed with the last id first. -/
def describeWorkspace (ws : Workspace) : List String :=
  ["🏢 " ++ ws.name ++ personalMark ws, "   Id: " ++ ws.id.text] ++
    (if ws.aliasName.isEmpty then [] else ["   Alias: " ++ ws.aliasName]) ++
    (ws.policy.map fun policy => "   Policy: " ++ policy.text).toList ++
    (ws.members.users.rows.reverse.map fun entry =>
      "   user " ++ entry.1.text ++ "  " ++ entry.2.role.name) ++
    (ws.members.integrations.rows.reverse.map fun entry =>
      "   integration " ++ entry.1.text ++ "  " ++ entry.2.role.name)

/-- The line that describes a workspace to one of its members. -/
def summarize (user : UserId) (ws : Workspace) : String :=
  let role := ((ws.members.userRole? user).map Role.name).getD "-"
  ws.id.text ++ "  " ++ role ++ "  " ++ ws.name ++ personalMark ws

/-- The line that describes an access role. -/
def describeRole (role : AccessRole) : String :=
  role.id.text ++ "  " ++ role.name

/-- The line that describes who holds which access roles. -/
def describeHolder (holder : RoleHolder) : String :=
  holder.user.id.text ++ "  " ++ holder.user.name ++ "  [" ++
    ", ".intercalate (holder.roles.map AccessRole.name) ++ "]"

/-- The lines of a list, or the line that says that it is empty. -/
def describeAll {α : Type} (nothing : String) (describe : α → String) (items : List α) :
    List String :=
  if items.isEmpty then [nothing] else items.map describe

/-! ## Instructions -/

variable (terms : Terms)

/-- Change a workspace, describe it and say what is done. -/
def changeWorkspace (message : String) (change : Operator → Action Workspace) : Console Unit := do
  let operator ← terms.operator
  let ws ← change operator
  Console.sayAll (describeWorkspace ws)
  terms.sayDone message

/-- Take integrations out of a workspace; a single one is taken out as such. -/
def takeIntegrationsOut (id : WorkspaceId) (operator : Operator) :
    List IntegrationId → Action Workspace
  | [integration] => Workspaces.removeIntegration id integration operator
  | integrations => Workspaces.removeIntegrations id integrations operator

/-- Ask whether to go on; without a terminal nobody can answer. -/
def confirm (id : WorkspaceId) : Console Unit := do
  Console.say ("🗑  Removing workspace " ++ id.text)
  throw (.failed "IO error: not a terminal")

/-- Give a user access roles within a workspace, one after another. -/
def grantAll (user : UserId) (workspace : WorkspaceId) : List RoleId → Action Unit
  | [] => return ()
  | role :: rest => do
    let _ ← Grants.addWorkspaceRole user workspace role
    grantAll user workspace rest

/-- Carry out an instruction on the directory. -/
def carryOut : Instruction → Console Unit
  | .signup name email subject => do
    let request : Signup := { name, email, identity := subject.map Identity.ofSubject }
    let (user, ws) ← Accounts.signup terms.defaultPolicy request
    Console.sayAll (describeUser user)
    Console.say ("   Personal workspace: " ++ ws.id.text)
    terms.sayDone "User signed up"
  | .searchUser query => do
    let operator ← terms.operator
    match ← Accounts.search query operator with
    | some user => Console.sayAll (describeUser user)
    | none => Console.say ("No user matches '" ++ query ++ "'")
  | .showUser id => do
    let operator ← terms.operator
    match ← Accounts.fetch [id] operator with
    | user :: _ => Console.sayAll (describeUser user)
    | [] => throw (.failed ("User " ++ id.text ++ " not found"))
  | .createWorkspace name aliasName owner =>
    changeWorkspace terms "Workspace created" fun operator => do
      let actor ← Action.ofExcept operator.actor
      let (ws, _) ← Workspaces.create name aliasName (owner.getD actor) operator
      return ws
  | .listWorkspaces => do
    let operator ← terms.operator
    let user ← Action.ofExcept operator.actor
    let workspaces ← Workspaces.findByUser user operator
    Console.sayAll (describeAll "No workspaces" (summarize user) workspaces)
  | .showWorkspace id => do
    let operator ← terms.operator
    match ← Workspaces.fetch [id] operator with
    | ws :: _ => Console.sayAll (describeWorkspace ws)
    | [] => throw (.failed ("Workspace " ++ id.text ++ " not found"))
  | .updateWorkspace id change =>
    changeWorkspace terms "Workspace updated" (Workspaces.update id change)
  | .transferOwnership id newOwner =>
    changeWorkspace terms "Ownership transferred" (Workspaces.transferOwnership id newOwner)
  | .removeWorkspace id confirmed => do
    let operator ← terms.operator
    if !confirmed && !terms.dryRun then confirm id
    Workspaces.remove id operator
    terms.sayDone "Workspace removed"
  | .addMember id user role =>
    changeWorkspace terms "Member added" (Workspaces.addUserMember id [(user, role)])
  | .updateMember id user role =>
    changeWorkspace terms "Member updated" (Workspaces.updateUserMember id user role)
  | .removeMembers id users =>
    changeWorkspace terms "Members removed" (Workspaces.removeMultipleUserMembers id users)
  | .addIntegration id integration role =>
    changeWorkspace terms "Integration added" (Workspaces.addIntegrationMember id integration role)
  | .updateIntegration id integration role =>
    changeWorkspace terms "Integration updated"
      (Workspaces.updateIntegrationMember id integration role)
  | .removeIntegrations id integrations =>
    changeWorkspace terms "Integrations removed"
      (takeIntegrationsOut id · integrations)
  | .createRole name => do
    Console.say (describeRole (← AccessRoles.create name))
    terms.sayDone "Role created"
  | .renameRole id name => do
    Console.say (describeRole (← AccessRoles.update id name))
    terms.sayDone "Role renamed"
  | .listRoles => do
    Console.sayAll (describeAll "No roles" describeRole (← AccessRoles.all))
  | .removeRole id => do
    AccessRoles.remove id
    terms.sayDone "Role removed"
  | .assignRoles user roles workspace => do
    match workspace with
    | some workspace => grantAll user workspace roles
    | none =>
      let _ ← Grants.updatePermittable user roles
    terms.sayDone "Roles assigned"
  | .listHolders => do
    Console.sayAll (describeAll "No users hold roles" describeHolder (← Grants.holders))
  | .check user resource action workspace => do
    let allowed ←
      Permissions.check terms.policy user { kind := resource, workspace } action
    Console.say (if allowed then "✅ allowed" else "⛔ denied")
  | .showConfig | .initConfig => return ()

end Roster.CommandLine
