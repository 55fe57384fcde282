import Roster.Access.Policy
import Roster.Json.Shape
import Roster.Json.Writer
import Roster.Store.Tables

/-!
# Records as JSON

How the records of the directory are written as JSON values, and the shapes by which they are
read back. Fields that hold nothing by default may be left out when reading; writing leaves out
only a missing host.
-/

namespace Roster

open Json (Record Shape)

namespace Ident

/-- An id is a text. -/
def json {kind : Entity} (id : Ident kind) : Json :=
  .text id.text

/-- Any text is an id. -/
def shape {kind : Entity} : Shape (Ident kind) := fun value => do
  return ⟨← Shape.text value⟩

end Ident

/-- Ids as an array. -/
def Json.ofIds {kind : Entity} (ids : List (Ident kind)) : Json :=
  .array (ids.map Ident.json)

/-- An id or `null`. -/
def Json.ofId? {kind : Entity} (id : Option (Ident kind)) : Json :=
  (id.map Ident.json).getD .null

/-- A table as an object with its keys as names. -/
def Table.json {kind : Entity} {ρ : Type} (row : ρ → Json) (table : Table kind ρ) : Json :=
  .record (table.rows.map fun entry => (entry.1.text, row entry.2))

namespace Time.Instant

/-- An instant is the text for it. -/
def json (i : Instant) : Json :=
  .text i.toText

/-- A text that stands for an instant. -/
def shape : Shape Instant :=
  Shape.filterMap Shape.text ofText?

end Time.Instant

namespace Role

/-- A role is the word for it. -/
def json (role : Role) : Json :=
  .text role.name

/-- One of the words for roles. -/
def shape : Shape Role :=
  Shape.word ofName?

end Role

namespace Member

/-- The record of a membership. -/
def json (member : Member) : Json :=
  .record ([("role", member.role.json), ("disabled", .bool member.disabled),
    ("invited_by", member.invitedBy.json)] ++
    (member.host.map fun host => ("host", Json.text host)).toList)

/-- The fields of a membership. -/
def record : Record Member :=
  (fun role disabled invitedBy host => { role, disabled, invitedBy, host }) <$>
    Record.required "role" Role.shape <*>
    Record.defaulted "disabled" Shape.bool false <*>
    Record.required "invited_by" Ident.shape <*>
    Record.defaulted "host" (Shape.nullable Shape.text) none

/-- Memberships by id. -/
def tableShape {kind : Entity} : Shape (Table kind Member) :=
  Shape.table record.shape

end Member

namespace WorkspaceProfile

/-- The record of a workspace profile. -/
def json (profile : WorkspaceProfile) : Json :=
  .record [("description", .text profile.description), ("website", .text profile.website),
    ("location", .text profile.location), ("billing_email", .text profile.billingEmail),
    ("photo_url", .text profile.photoUrl)]

/-- The fields of a workspace profile. -/
def record : Record WorkspaceProfile :=
  (fun description website location billingEmail photoUrl =>
    { description, website, location, billingEmail, photoUrl }) <$>
    Record.defaulted "description" Shape.text "" <*>
    Record.defaulted "website" Shape.text "" <*>
    Record.defaulted "location" Shape.text "" <*>
    Record.defaulted "billing_email" Shape.text "" <*>
    Record.defaulted "photo_url" Shape.text ""

end WorkspaceProfile

namespace Workspace

/-- The record of a workspace. -/
def json (ws : Workspace) : Json :=
  .record [("id", ws.id.json), ("name", .text ws.name), ("alias", .text ws.aliasName),
    ("email", .text ws.email), ("metadata", ws.profile.json), ("personal", .bool ws.isPersonal),
    ("members", ws.members.users.json Member.json),
    ("integrations", ws.members.integrations.json Member.json),
    ("policy", .ofId? ws.policy), ("updated_at", ws.updatedAt.json)]

/-- The fields of a workspace. -/
def record : Record Workspace :=
  (fun id name aliasName email profile fixed users integrations policy updatedAt =>
    { id, name, aliasName, email, profile, members := { users, integrations, fixed }, policy,
      updatedAt }) <$>
    Record.required "id" Ident.shape <*>
    Record.required "name" Shape.text <*>
    Record.defaulted "alias" Shape.text "" <*>
    Record.defaulted "email" Shape.text "" <*>
    Record.defaulted "metadata" WorkspaceProfile.record.shape {} <*>
    Record.defaulted "personal" Shape.bool false <*>
    Record.defaulted "members" Member.tableShape ∅ <*>
    Record.defaulted "integrations" Member.tableShape ∅ <*>
    Record.defaulted "policy" (Shape.nullable Ident.shape) none <*>
    Record.required "updated_at" Time.Instant.shape

end Workspace

namespace Identity

/-- The record of an identity. -/
def json (identity : Identity) : Json :=
  .record [("provider", .text identity.provider), ("sub", .text identity.subject)]

/-- The fields of an identity. -/
def record : Record Identity :=
  (fun provider subject => { provider, subject }) <$>
    Record.required "provider" Shape.text <*>
    Record.required "sub" Shape.text

end Identity

namespace Theme

/-- A theme is the word for it. -/
def json (theme : Theme) : Json :=
  .text theme.name

/-- One of the words for themes. -/
def shape : Shape Theme :=
  Shape.word ofName?

end Theme

namespace UserProfile

/-- The record of a user profile. -/
def json (profile : UserProfile) : Json :=
  .record [("lang", .text profile.lang), ("theme", profile.theme.json),
    ("description", .text profile.description), ("website", .text profile.website),
    ("photo_url", .text profile.photoUrl)]

/-- The fields of a user profile. -/
def record : Record UserProfile :=
  (fun lang theme description website photoUrl =>
    { lang, theme, description, website, photoUrl }) <$>
    Record.defaulted "lang" Shape.text "" <*>
    Record.defaulted "theme" Theme.shape .default <*>
    Record.defaulted "description" Shape.text "" <*>
    Record.defaulted "website" Shape.text "" <*>
    Record.defaulted "photo_url" Shape.text ""

end UserProfile

namespace User

/-- The record of a user. -/
def json (user : User) : Json :=
  .record [("id", user.id.json), ("name", .text user.name), ("email", .text user.email),
    ("auths", .array (user.identities.map Identity.json)), ("workspace", user.workspace.json),
    ("metadata", user.profile.json), ("updated_at", user.updatedAt.json)]

/-- The fields of a user. -/
def record : Record User :=
  (fun id name email identities workspace profile updatedAt =>
    { id, name, email, identities, workspace, profile, updatedAt }) <$>
    Record.required "id" Ident.shape <*>
    Record.required "name" Shape.text <*>
    Record.required "email" Shape.text <*>
    Record.defaulted "auths" (Shape.list Identity.record.shape) [] <*>
    Record.required "workspace" Ident.shape <*>
    Record.defaulted "metadata" UserProfile.record.shape {} <*>
    Record.required "updated_at" Time.Instant.shape

end User

namespace AccessRole

/-- The record of an access role. -/
def json (role : AccessRole) : Json :=
  .record [("id", role.id.json), ("name", .text role.name)]

/-- The fields of an access role. -/
def record : Record AccessRole :=
  (fun id name => { id, name }) <$>
    Record.required "id" Ident.shape <*>
    Record.required "name" Shape.text

end AccessRole

namespace Binding

/-- The record of a binding. -/
def json (binding : Binding) : Json :=
  .record [("workspace_id", binding.workspace.json), ("role_id", binding.role.json)]

/-- The fields of a binding. -/
def record : Record Binding :=
  (fun workspace role => { workspace, role }) <$>
    Record.required "workspace_id" Ident.shape <*>
    Record.required "role_id" Ident.shape

end Binding

namespace Permittable

/-- The record of a permittable. -/
def json (p : Permittable) : Json :=
  .record [("id", p.id.json), ("user_id", p.user.json), ("role_ids", .ofIds p.roles),
    ("workspace_roles", .array (p.bindings.map Binding.json))]

/-- The fields of a permittable. -/
def record : Record Permittable :=
  (fun id user roles bindings => { id, user, roles, bindings }) <$>
    Record.required "id" Ident.shape <*>
    Record.required "user_id" Ident.shape <*>
    Record.defaulted "role_ids" (Shape.list Ident.shape) [] <*>
    Record.defaulted "workspace_roles" (Shape.list Binding.record.shape) []

end Permittable

namespace PolicyRule

/-- The record of a policy rule. -/
def json (rule : PolicyRule) : Json :=
  .record [("role", .text rule.role), ("resource", .text rule.resource),
    ("actions", .array (rule.actions.map Json.text))]

/-- The fields of a policy rule. -/
def record : Record PolicyRule :=
  (fun role resource actions => { role, resource, actions }) <$>
    Record.required "role" Shape.text <*>
    Record.required "resource" Shape.text <*>
    Record.defaulted "actions" (Shape.list Shape.text) []

end PolicyRule

namespace Resource

/-- The record of a resource. -/
def json (resource : Resource) : Json :=
  .record [("kind", .text resource.kind), ("id", .ofText? resource.id),
    ("workspace", .ofId? resource.workspace)]

/-- The fields of a resource. -/
def record : Record Resource :=
  (fun kind id workspace => { kind, id, workspace }) <$>
    Record.required "kind" Shape.text <*>
    Record.defaulted "id" (Shape.nullable Shape.text) none <*>
    Record.defaulted "workspace" (Shape.nullable Ident.shape) none

end Resource

namespace Tables

/-- The record of all tables. -/
def json (tables : Tables) : Json :=
  .record [("workspaces", tables.workspaces.json Workspace.json),
    ("users", tables.users.json User.json), ("roles", tables.roles.json AccessRole.json),
    ("permittables", tables.permittables.json Permittable.json)]

/-- The fields of all tables. -/
def record : Record Tables :=
  (fun workspaces users roles permittables => { workspaces, users, roles, permittables }) <$>
    Record.defaulted "workspaces" (Shape.table Workspace.record.shape) ∅ <*>
    Record.defaulted "users" (Shape.table User.record.shape) ∅ <*>
    Record.defaulted "roles" (Shape.table AccessRole.record.shape) ∅ <*>
    Record.defaulted "permittables" (Shape.table Permittable.record.shape) ∅

/-- The text of a snapshot of the tables. -/
def toSnapshot (tables : Tables) : String :=
  tables.json.pretty

/-- The tables in the text of a snapshot; a blank text holds no rows. -/
def ofSnapshot? (snapshot : String) : Option Tables :=
  if (Text.trim snapshot).isEmpty then some {}
  else (record.shape.readWhole snapshot).toOption

end Tables

end Roster
