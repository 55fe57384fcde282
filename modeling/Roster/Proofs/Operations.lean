import Roster.Proofs.Actions
import Roster.Service.AccessRoles
import Roster.Service.Accounts
import Roster.Service.Grants

/-!
# Operations and runs

Everything callers can ask of the directory that may change it, as data, so that runs can be any
sequence of operations with any arguments. A call is an operation together with what surrounds
it: the operator who asks, the time, the ids that are drawn and whether the snapshot can be
written. Calls follow each other on one store, since a transaction begins only when no other is
open and every operation changes the tables in one transaction.
-/

namespace Roster

/-- An operation that may change the directory, with its arguments. -/
inductive Operation
  | createWorkspace (name aliasName : String) (firstUser : UserId)
  | updateWorkspace (id : WorkspaceId) (change : WorkspaceChange)
  | addUserMember (id : WorkspaceId) (users : List (UserId × Role))
  | addIntegrationMember (id : WorkspaceId) (integration : IntegrationId) (role : Role)
  | updateUserMember (id : WorkspaceId) (member : UserId) (role : Role)
  | updateIntegrationMember (id : WorkspaceId) (integration : IntegrationId) (role : Role)
  | removeUserMember (id : WorkspaceId) (member : UserId)
  | removeMultipleUserMembers (id : WorkspaceId) (members : List UserId)
  | removeIntegration (id : WorkspaceId) (integration : IntegrationId)
  | removeIntegrations (id : WorkspaceId) (integrations : List IntegrationId)
  | transferOwnership (id : WorkspaceId) (newOwner : UserId)
  | removeWorkspace (id : WorkspaceId)
  | signup (request : Signup)
  | signupSubject (subject email name : String)
  | updateMe (change : UserChange)
  | removeMe
  | createRole (name : String)
  | updateRole (id : RoleId) (name : String)
  | removeRole (id : RoleId)
  | updatePermittable (user : UserId) (roles : List RoleId)
  | addWorkspaceRole (user : UserId) (workspace : WorkspaceId) (role : RoleId)

namespace Operation

/-- Carry an operation out for an operator, under the default policy that is configured. The
result is the operator whom the caller holds afterwards: the same one, unless a workspace that
was created counts among their own. -/
def act (defaultPolicy : Option PolicyId) (operator : Operator) : Operation → Action Operator
  | createWorkspace name aliasName firstUser => do
    let (_, operator) ← Workspaces.create name aliasName firstUser operator
    return operator
  | updateWorkspace id change => do
    let _ ← Workspaces.update id change operator
    return operator
  | addUserMember id users => do
    let _ ← Workspaces.addUserMember id users operator
    return operator
  | addIntegrationMember id integration role => do
    let _ ← Workspaces.addIntegrationMember id integration role operator
    return operator
  | updateUserMember id member role => do
    let _ ← Workspaces.updateUserMember id member role operator
    return operator
  | updateIntegrationMember id integration role => do
    let _ ← Workspaces.updateIntegrationMember id integration role operator
    return operator
  | removeUserMember id member => do
    let _ ← Workspaces.removeUserMember id member operator
    return operator
  | removeMultipleUserMembers id members => do
    let _ ← Workspaces.removeMultipleUserMembers id members operator
    return operator
  | removeIntegration id integration => do
    let _ ← Workspaces.removeIntegration id integration operator
    return operator
  | removeIntegrations id integrations => do
    let _ ← Workspaces.removeIntegrations id integrations operator
    return operator
  | transferOwnership id newOwner => do
    let _ ← Workspaces.transferOwnership id newOwner operator
    return operator
  | removeWorkspace id => do
    Workspaces.remove id operator
    return operator
  | signup request => do
    let _ ← Accounts.signup defaultPolicy request
    return operator
  | signupSubject subject email name => do
    let _ ← Accounts.signupSubject defaultPolicy subject email name
    return operator
  | updateMe change => do
    let _ ← Accounts.updateMe change operator
    return operator
  | removeMe => do
    Accounts.removeMe operator
    return operator
  | createRole name => do
    let _ ← AccessRoles.create name
    return operator
  | updateRole id name => do
    let _ ← AccessRoles.update id name
    return operator
  | removeRole id => do
    AccessRoles.remove id
    return operator
  | updatePermittable user roles => do
    let _ ← Grants.updatePermittable user roles
    return operator
  | addWorkspaceRole user workspace role => do
    let _ ← Grants.addWorkspaceRole user workspace role
    return operator

/-- The operations on access roles and on who holds them. -/
def Governs : Operation → Prop
  | createRole _ | updateRole _ _ | removeRole _ | updatePermittable _ _ | addWorkspaceRole _ _ _ =>
    True
  | _ => False

/-- An action carries an operation out: it is the operation, but for the operator whom the caller
holds afterwards. -/
def CarriedOutBy {α : Type} (operation : Operation) (defaultPolicy : Option PolicyId)
    (operator : Operator) (action : Action α) : Prop :=
  ∃ held : α → Operator, operation.act defaultPolicy operator =
    action >>= fun value => pure (held value)

end Operation

/-- A store without rows, whatever its label and file. -/
def Store.blank (label : Nat) (file : Option String) (attached : Bool) : Store :=
  { label, tables := {}, file, attached }

/-- An operation asked for at some moment by some operator. -/
structure Call where
  moment : Moment
  defaultPolicy : Option PolicyId
  operator : Operator
  operation : Operation

namespace Call

/-- What a call returns and the store it leaves behind. -/
def perform (call : Call) (store : Store) : Except Error Operator × Store :=
  let (outcome, directory) :=
    (call.operation.act call.defaultPolicy call.operator).perform call.moment { store }
  (outcome, directory.store)

/-- The operator whom the caller holds after a call: the one that came out of it, and the one they
came with if it failed. -/
def held (call : Call) : Except Error Operator → Operator
  | .ok operator => operator
  | .error _ => call.operator

end Call

/-- The store after some calls, the first one first. -/
def Store.after (store : Store) (calls : List Call) : Store :=
  calls.foldl (fun store call => (call.perform store).2) store

end Roster
