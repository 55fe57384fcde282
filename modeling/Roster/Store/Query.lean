import Roster.Store.Filter
import Roster.Store.Tables

/-!
# Questions to the tables

A query asks for records by id or by another key. Rows are looked at in the order of the keys
they are filed under, and a workspace must be fit to be restored before it is given out. Some
queries can be refused before any table is looked at.
-/

namespace Roster

/-- A question, marked with the type of its answer. -/
inductive Query : Type → Type
  | workspace (filter : Filter) (id : WorkspaceId) : Query Workspace
  | workspaces (filter : Filter) (ids : List WorkspaceId) : Query (List Workspace)
  /-- The workspaces with a user among their members. -/
  | workspacesOf (filter : Filter) (user : UserId) : Query (List Workspace)
  | workspaceNamed (filter : Filter) (name : String) : Query Workspace
  | workspaceAliased (filter : Filter) (aliasName : String) : Query Workspace
  | user (id : UserId) : Query User
  | users (ids : List UserId) : Query (List User)
  | userWithEmail (email : String) : Query User
  | userWithSubject (subject : String) : Query User
  /-- The first user with a name or an e-mail address. -/
  | userMatching (query : String) : Query User
  /-- All access roles in the order of their names. -/
  | roles : Query (List AccessRole)
  | role (id : RoleId) : Query AccessRole
  | rolesWithIds (ids : List RoleId) : Query (List AccessRole)
  | roleNamed (name : String) : Query AccessRole
  | permittables : Query (List Permittable)
  | permittableOf (user : UserId) : Query Permittable
  | permittablesOf (users : List UserId) : Query (List Permittable)
  /-- The permittables that list an access role. -/
  | holdersOf (role : RoleId) : Query (List Permittable)

/-- A value that must be there. -/
def found {α : Type} (what : String) : Option α → Except Error α
  | some value => .ok value
  | none => .error (.notFound what)

/-- Items in the order of their names; those of one name stay in the order given. -/
def sortByName {α : Type} (name : α → String) (items : List α) : List α :=
  items.mergeSort fun a b => !decide (name b < name a)

namespace Query

/-- The answer to a query that needs no table, if there is one. -/
def refusal? {α : Type} : Query α → Option Error
  | workspaceAliased _ aliasName =>
    if aliasName.isEmpty then some (.notFound "workspace alias") else none
  | _ => none

/-- Search the tables. -/
def search {α : Type} : Query α → Tables → Except Error α
  | workspace filter id, t => do
    let row ← found ("workspace " ++ id.text)
      ((t.workspaces.get? id).filter fun _ => filter.canRead id)
    row.restore
  | workspaces filter ids, t =>
    ((ids.filter filter.canRead).filterMap t.workspaces.get?).mapM Workspace.restore
  | workspacesOf filter member, t =>
    (t.workspaces.values.filter fun ws =>
      ws.members.users.contains member && filter.canRead ws.id).mapM Workspace.restore
  | workspaceNamed filter name, t => do
    let row ← found ("workspace named " ++ name)
      (t.workspaces.values.find? fun ws => ws.name = name && filter.canRead ws.id)
    row.restore
  | workspaceAliased filter aliasName, t => do
    let row ← found ("workspace alias " ++ aliasName)
      (t.workspaces.values.find? fun ws => ws.aliasName = aliasName && filter.canRead ws.id)
    row.restore
  | user id, t => found ("user " ++ id.text) (t.users.get? id)
  | users ids, t => .ok (ids.filterMap t.users.get?)
  | userWithEmail email, t =>
    let folded := foldEmail email
    found ("user with email " ++ folded) (t.users.values.find? fun u => u.email = folded)
  | userWithSubject subject, t =>
    found ("user with subject " ++ subject) (t.users.values.find? (·.hasSubject subject))
  | userMatching query, t =>
    let trimmed := Text.trim query
    let email := Text.lower trimmed
    found ("user " ++ trimmed)
      (t.users.values.find? fun u => u.name = trimmed || u.email = email)
  | roles, t => .ok (sortByName AccessRole.name t.roles.values)
  | role id, t => found ("role " ++ id.text) (t.roles.get? id)
  | rolesWithIds ids, t => .ok (ids.filterMap t.roles.get?)
  | roleNamed name, t => found ("role named " ++ name) (t.roles.values.find? (·.name = name))
  | permittables, t => .ok t.permittables.values
  | permittableOf holder, t =>
    found ("permittable for user " ++ holder.text) (t.permittables.values.find? (·.user = holder))
  | permittablesOf holders, t => .ok (t.permittables.values.filter (·.user ∈ holders))
  | holdersOf id, t => .ok (t.permittables.values.filter (·.hasRole id))

/-- Answer a query from the tables. -/
def answer {α : Type} (query : Query α) (tables : Tables) : Except Error α :=
  match query.refusal? with
  | some error => .error error
  | none => query.search tables

end Query

end Roster
