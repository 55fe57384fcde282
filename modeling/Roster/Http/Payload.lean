import Roster.Records
import Roster.Service.Accounts
import Roster.Service.Grants

/-!
# What requests and responses carry

The fields of the bodies that requests bring, and the values that responses give back. Members
are listed with the last id first.
-/

namespace Roster

open Json (Record Shape)

/-- The fields of a change to one's account. -/
def UserChange.record : Record UserChange :=
  (fun name email lang theme description website photoUrl =>
    { name, email, lang, theme, description, website, photoUrl }) <$>
    Record.optional "name" Shape.text <*>
    Record.optional "email" Shape.text <*>
    Record.optional "lang" Shape.text <*>
    Record.optional "theme" Theme.shape <*>
    Record.optional "description" Shape.text <*>
    Record.optional "website" Shape.text <*>
    Record.optional "photo_url" Shape.text

/-- The fields of a change to a workspace. -/
def WorkspaceChange.record : Record WorkspaceChange :=
  (fun name aliasName email profile policy => { name, aliasName, email, profile, policy }) <$>
    Record.optional "name" Shape.text <*>
    Record.optional "alias" Shape.text <*>
    Record.optional "email" Shape.text <*>
    Record.optional "metadata" WorkspaceProfile.record.shape <*>
    Record.optional "policy" Ident.shape

/-- A user who holds access roles, and those roles. -/
def RoleHolder.json (holder : RoleHolder) : Json :=
  .record [("user", holder.user.json), ("roles", .array (holder.roles.map AccessRole.json))]

namespace Http

/-- The name and alias of a workspace to be created. -/
def newWorkspace : Record (String × String) :=
  Prod.mk <$> Record.required "name" Shape.text <*> Record.defaulted "alias" Shape.text ""

/-- A single field that names a user. -/
def userField : Record UserId :=
  Record.required "user_id" Ident.shape

/-- A field for the role of a member; members are readers unless it says otherwise. -/
def memberRole : Record Role :=
  Record.defaulted "role" Role.shape .reader

/-- The users to be added to a workspace, with their roles. -/
def newMembers : Record (List (UserId × Role)) :=
  Record.required "users" (Shape.list (Prod.mk <$> userField <*> memberRole).shape)

/-- The integration to be added to a workspace, with its role. -/
def newIntegration : Record (IntegrationId × Role) :=
  Prod.mk <$> Record.required "integration_id" Ident.shape <*> memberRole

/-- The role a member is to have. -/
def roleField : Record Role :=
  Record.required "role" Role.shape

/-- The users to be taken out of a workspace. -/
def usersField : Record (List UserId) :=
  Record.required "user_ids" (Shape.list Ident.shape)

/-- The integrations to be taken out of a workspace. -/
def integrationsField : Record (List IntegrationId) :=
  Record.required "integration_ids" (Shape.list Ident.shape)

/-- The name of an access role. -/
def nameField : Record String :=
  Record.required "name" Shape.text

/-- Access roles to be granted, and the workspace they are to hold in, if only in one. -/
def newGrants : Record (List RoleId × Option WorkspaceId) :=
  Prod.mk <$> Record.defaulted "role_ids" (Shape.list Ident.shape) [] <*>
    Record.defaulted "workspace_id" (Shape.nullable Ident.shape) none

/-- The resource and the action that a permission is asked for. -/
def permissionRequest : Record (Resource × String) :=
  Prod.mk <$> Record.required "resource" Resource.record.shape <*>
    Record.required "action" Shape.text

/-- A user among the members of a workspace. -/
def userMember (user : UserId) (member : Member) : Json :=
  .record [("user_id", user.json), ("role", member.role.json),
    ("disabled", .bool member.disabled), ("invited_by", member.invitedBy.json)]

/-- An integration among the members of a workspace. -/
def integrationMember (integration : IntegrationId) (member : Member) : Json :=
  .record [("integration_id", integration.json), ("role", member.role.json),
    ("invited_by", member.invitedBy.json)]

/-- A workspace as clients see it. -/
def workspaceView (ws : Workspace) : Json :=
  .record [("id", ws.id.json), ("name", .text ws.name), ("alias", .text ws.aliasName),
    ("email", .text ws.email), ("personal", .bool ws.isPersonal), ("metadata", ws.profile.json),
    ("policy", .ofId? ws.policy),
    ("members", .array (ws.members.users.rows.reverse.map fun entry =>
      userMember entry.1 entry.2)),
    ("integrations", .array (ws.members.integrations.rows.reverse.map fun entry =>
      integrationMember entry.1 entry.2)),
    ("updated_at", ws.updatedAt.json)]

/-- A user who has just signed up, and their workspace. -/
def signupView (user : User) (ws : Workspace) : Json :=
  .record [("user", user.json), ("workspace", workspaceView ws)]

end Http

end Roster
