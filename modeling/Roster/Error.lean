import Roster.Ident

/-!
# What can go wrong

Every refusal of the directory is one `Error`. Its `kind` says whose fault it is and its `code`
and `message` are what a caller is shown.
-/

namespace Roster

/-- The reasons for which the directory refuses a request. -/
inductive Error
  /-- The membership of a personal workspace is fixed. -/
  | personalWorkspaceImmutable
  /-- The user is a member already. -/
  | alreadyJoined
  /-- The user is not a member. -/
  | userNotInWorkspace
  /-- The user who should become owner is not a member. -/
  | targetUserNotInWorkspace
  /-- The integration is installed already. -/
  | integrationAlreadyJoined
  /-- The integration is not installed. -/
  | integrationNotInWorkspace
  /-- Some of the integrations of a batch are not installed. -/
  | integrationsNotInWorkspace (missing : List IntegrationId)
  /-- The workspace would be left without an owner. -/
  | ownerCannotLeave
  /-- Owners do not change their own role. -/
  | cannotChangeOwnerRole
  /-- The role of owner is not handed out this way. -/
  | cannotChangeRoleToOwner
  /-- A batch of users is empty. -/
  | noSpecifiedUsers
  /-- An id is blank. -/
  | invalidId
  /-- An argument breaks a rule. -/
  | invalidParameter (reason : String)
  /-- The caller lacks the permission. -/
  | operationDenied
  /-- There is no caller. -/
  | invalidOperator
  /-- A record does not exist. -/
  | notFound (what : String)
  /-- A record exists already, or one of its keys is taken. -/
  | alreadyExists (what : String)
  /-- The store itself failed. -/
  | storage (reason : String)
  deriving DecidableEq, Repr

/-- Whose fault an error is. -/
inductive ErrorKind
  | invariant
  | authorization
  | unauthenticated
  | notFound
  | conflict
  | storage
  deriving DecidableEq, Repr

/-- The name of an error kind. -/
def ErrorKind.name : ErrorKind → String
  | invariant => "Invariant"
  | authorization => "Authorization"
  | unauthenticated => "Unauthenticated"
  | notFound => "NotFound"
  | conflict => "Conflict"
  | storage => "Storage"

namespace Error

/-- The kind an error belongs to. -/
def kind : Error → ErrorKind
  | operationDenied => .authorization
  | invalidOperator => .unauthenticated
  | notFound _ => .notFound
  | alreadyExists _ | alreadyJoined | integrationAlreadyJoined => .conflict
  | storage _ => .storage
  | _ => .invariant

/-- The stable word by which programs tell errors apart. -/
def code : Error → String
  | personalWorkspaceImmutable => "personal_workspace_immutable"
  | alreadyJoined => "already_joined"
  | userNotInWorkspace => "user_not_in_workspace"
  | targetUserNotInWorkspace => "target_user_not_in_workspace"
  | integrationAlreadyJoined => "integration_already_joined"
  | integrationNotInWorkspace => "integration_not_in_workspace"
  | integrationsNotInWorkspace _ => "integrations_not_in_workspace"
  | ownerCannotLeave => "owner_cannot_leave"
  | cannotChangeOwnerRole => "cannot_change_owner_role"
  | cannotChangeRoleToOwner => "cannot_change_role_to_owner"
  | noSpecifiedUsers => "no_specified_users"
  | invalidId => "invalid_id"
  | invalidParameter _ => "invalid_parameter"
  | operationDenied => "operation_denied"
  | invalidOperator => "invalid_operator"
  | notFound _ => "not_found"
  | alreadyExists _ => "already_exists"
  | storage _ => "internal"

/-- The sentence people read. -/
def message : Error → String
  | personalWorkspaceImmutable => "cannot modify personal workspace"
  | alreadyJoined => "user already joined"
  | userNotInWorkspace => "user not in the workspace"
  | targetUserNotInWorkspace => "target user does not exist in the workspace"
  | integrationAlreadyJoined => "integration already joined"
  | integrationNotInWorkspace => "integration not in the workspace"
  | integrationsNotInWorkspace missing =>
    "integrations not in the workspace: " ++ ", ".intercalate (missing.map Ident.text)
  | ownerCannotLeave => "owner cannot leave the workspace"
  | cannotChangeOwnerRole => "cannot change owner role"
  | cannotChangeRoleToOwner => "cannot change role to owner"
  | noSpecifiedUsers => "no users specified"
  | invalidId => "invalid id"
  | invalidParameter reason => "invalid parameter: " ++ reason
  | operationDenied => "operation denied"
  | invalidOperator => "invalid operator"
  | notFound what => "not found: " ++ what
  | alreadyExists what => "already exists: " ++ what
  | storage reason => reason

end Error

/-- The id written in a text; a blank text is refused. -/
def Ident.parse {kind : Entity} (s : String) : Except Error (Ident kind) :=
  match Ident.parse? s with
  | some id => .ok id
  | none => .error .invalidId

/-- Turn the absence of a record into `none`, and keep every other answer. -/
def optional {α : Type} : Except Error α → Except Error (Option α)
  | .ok value => .ok (some value)
  | .error (.notFound _) => .ok none
  | .error other => .error other

end Roster
