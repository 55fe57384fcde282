import Roster.Store.Usecase

/-!
# Operations on workspaces

What callers do to workspaces: read those within their reach, create, change and remove them, and
move their members. Every change happens in a transaction; changes are open to owners, except
that members may leave.
-/

namespace Roster

/-- What is to change of a workspace; an empty policy means none. -/
structure WorkspaceChange where
  name : Option String := none
  aliasName : Option String := none
  email : Option String := none
  profile : Option WorkspaceProfile := none
  policy : Option PolicyId := none
  deriving DecidableEq, Repr

/-- Remove every binding to some workspaces from every permittable. -/
def stripBindings (workspaces : List WorkspaceId) : Program Unit := do
  if workspaces.isEmpty then return
  for p in ← .query .permittables do
    let (rest, changed) := workspaces.foldl
      (fun (p, changed) id =>
        let (rest, dropped) := p.removeWorkspace id
        (rest, changed || dropped))
      (p, false)
    if changed then Program.command (.savePermittable rest)

namespace Workspaces

/-- Put a workspace that has no policy under the default policy of the caller. -/
def withDefaultPolicy (operator : Operator) (now : Time.Instant) (ws : Workspace) : Workspace :=
  match ws.policy, operator.policy none with
  | none, some policy => ws.setPolicy now (some policy)
  | _, _ => ws

/-- Fail if another workspace than the excepted one has an alias; no alias is always free. -/
def aliasFree (aliasName : String) (except : Option WorkspaceId) : Program Unit := do
  if aliasName.isEmpty then return
  Program.refuseTaken (.workspaceAliased .none aliasName) (some ·.id ≠ except)
    (.alreadyExists ("workspace alias " ++ aliasName))

/-- Refuse a personal workspace. -/
def notPersonal (ws : Workspace) : Program Unit :=
  if ws.isPersonal then throw .personalWorkspaceImmutable else return

/-- The filter that lets an operator read what is within their reach. -/
def readableFilter (operator : Operator) : Filter :=
  .ofReadable operator.allReadable

/-- The workspaces with some ids, as far as they are within reach. -/
def fetch (ids : List WorkspaceId) (operator : Operator) : Action (List Workspace) := do
  let _ ← Action.ofExcept operator.actor
  Usecase.run {} (some operator) (.query (.workspaces (readableFilter operator) ids))

/-- The workspaces of a user, as far as they are within reach. -/
def findByUser (user : UserId) (operator : Operator) : Action (List Workspace) := do
  let _ ← Action.ofExcept operator.actor
  Usecase.run {} (some operator) (.query (.workspacesOf (readableFilter operator) user))

/-- The workspace with an alias, if it is within reach. -/
def fetchByAlias (aliasName : String) (operator : Operator) : Action Workspace := do
  let _ ← Action.ofExcept operator.actor
  let ws ← Usecase.runPlain (.query (.workspaceAliased .none aliasName))
  Usecase.run { requirements := { readable := some [ws.id] } } (some operator) (return ws)

/-- Build a team workspace for a first user who exists, and file it under a new id. -/
def establish (name aliasName : String) (firstUser : UserId) (policy : Option PolicyId)
    (now : Time.Instant) : Program Workspace := do
  let _ ← Program.query (.user firstUser)
  aliasFree aliasName none
  let id ← Program.drawId
  let plan : Workspace.Plan := { id := some id, name, aliasName, owner := some firstUser, policy }
  let ws ← Program.ofExcept (plan.build now)
  Program.command (.createWorkspace .none ws)
  return ws

/-- Create a team workspace with one owner; the operator who results counts it as their own. -/
def create (name aliasName : String) (firstUser : UserId) (operator : Operator) :
    Action (Workspace × Operator) := do
  let _ ← Action.ofExcept operator.actor
  let now ← Action.now
  let ws ← Usecase.run { transactional := true } (some operator)
    (establish name aliasName firstUser (operator.policy none) now)
  return (ws, operator.addNewWorkspace ws.id)

/-- The demand to own a workspace. -/
def ownership (id : WorkspaceId) : Usecase where
  requirements := { owning := some [id] }
  transactional := true

/--
Change one workspace in a transaction and save it. What the change is told is the acting user, the
time, and the workspace as stored.
-/
def edit (usecase : Usecase) (id : WorkspaceId) (operator : Operator)
    (before : UserId → Except Error Unit)
    (change : UserId → Time.Instant → Workspace → Program Workspace) : Action Workspace := do
  let user ← Action.ofExcept operator.actor
  let now ← Action.now
  usecase.run (some operator) do
    Program.ofExcept (before user)
    let ws ← Program.query (.workspace .none id)
    let changed ← change user now ws
    Program.command (.saveWorkspaces .none [changed])
    return changed

/-- Let a change pass that the workspace itself decides on, and apply the default policy. -/
def settled (operator : Operator) (now : Time.Instant) (outcome : Except Error Workspace) :
    Program Workspace := do
  return withDefaultPolicy operator now (← Program.ofExcept outcome)

/-- Nothing is checked before the workspace is looked up. -/
def unchecked (_ : UserId) : Except Error Unit :=
  .ok ()

/-- Change a workspace, except its members. -/
def update (id : WorkspaceId) (change : WorkspaceChange) (operator : Operator) :
    Action Workspace :=
  edit (ownership id) id operator unchecked fun _ now ws => do
    notPersonal ws
    let mut ws := ws
    if let some name := change.name then
      ws := ws.rename now name
    if let some aliasName := change.aliasName then
      aliasFree aliasName (some id)
      ws := ws.updateAlias now aliasName
    if let some email := change.email then
      ws := ws.updateEmail now email
    if let some profile := change.profile then
      ws := ws.updateProfile now profile
    if let some policy := change.policy then
      ws := ws.setPolicy now (operator.policy (some policy))
    return ws

/-- The first of some users who does not exist. -/
def firstMissing (ids : List UserId) (users : List User) : Option UserId :=
  ids.find? fun id => !users.any (·.id = id)

/-- Add users with their roles, all of them or none. -/
def addUserMember (id : WorkspaceId) (users : List (UserId × Role)) (operator : Operator) :
    Action Workspace := do
  let _ ← Action.ofExcept operator.actor
  if users.isEmpty then throw .noSpecifiedUsers
  edit (ownership id) id operator unchecked fun inviter now ws => do
    notPersonal ws
    let ids := distinct (users.map (·.1))
    if let some missing := firstMissing ids (← .query (.users ids)) then
      throw (.notFound ("user " ++ missing.text))
    settled operator now
      (users.foldlM (fun ws (member, role) => ws.join now member (some role) inviter) ws)

/-- Install an integration; a personal workspace takes integrations as well. -/
def addIntegrationMember (id : WorkspaceId) (integration : IntegrationId) (role : Role)
    (operator : Operator) : Action Workspace :=
  edit (ownership id) id operator unchecked fun inviter now ws =>
    settled operator now (ws.addIntegration now integration (some role) inviter)

/-- Give a user another role, other than owner; owners do not change their own. -/
def updateUserMember (id : WorkspaceId) (member : UserId) (role : Role) (operator : Operator) :
    Action Workspace :=
  edit (ownership id) id operator
    (fun user => do
      if member = user then throw .cannotChangeOwnerRole
      if role = .owner then throw .cannotChangeRoleToOwner)
    fun _ now ws => settled operator now (ws.updateUserRole now member role)

/-- Give an integration another role. -/
def updateIntegrationMember (id : WorkspaceId) (integration : IntegrationId) (role : Role)
    (operator : Operator) : Action Workspace :=
  edit (ownership id) id operator unchecked fun _ now ws =>
    settled operator now (ws.updateIntegrationRole now integration role)

/--
Take one member out. Users may take themselves out unless they are the only owner; for anyone
else it takes an owner. The members are looked at anew each time, since the caller may be gone.
-/
def takeOut (user : UserId) (now : Time.Instant) (ws : Workspace) (member : UserId) :
    Except Error Workspace := do
  if member = user then
    if ws.members.isOnlyOwner user then throw .ownerCannotLeave
  else if ws.members.userRole? user ≠ some .owner then
    throw .operationDenied
  ws.leave now member

/-- Take members out, all of them or none; an owner must remain. -/
def removeMultipleUserMembers (id : WorkspaceId) (members : List UserId) (operator : Operator) :
    Action Workspace := do
  let _ ← Action.ofExcept operator.actor
  let targets := distinct members
  if targets.isEmpty then throw .noSpecifiedUsers
  let usecase : Usecase := { requirements := { readable := some [id] }, transactional := true }
  edit usecase id operator unchecked fun user now ws => do
    let ws ← Program.ofExcept (targets.foldlM (takeOut user now) ws)
    if (ws.members.usersByRole .owner).isEmpty then throw .ownerCannotLeave
    for p in ← .query (.permittablesOf targets) do
      let (rest, changed) := p.removeWorkspace id
      if changed then Program.command (.savePermittable rest)
    return withDefaultPolicy operator now ws

/-- Take one member out. -/
def removeUserMember (id : WorkspaceId) (member : UserId) (operator : Operator) :
    Action Workspace :=
  removeMultipleUserMembers id [member] operator

/-- Take an integration out. -/
def removeIntegration (id : WorkspaceId) (integration : IntegrationId) (operator : Operator) :
    Action Workspace :=
  edit (ownership id) id operator unchecked fun _ now ws =>
    settled operator now (ws.deleteIntegration now integration)

/-- Take integrations out, all of them or none. -/
def removeIntegrations (id : WorkspaceId) (integrations : List IntegrationId)
    (operator : Operator) : Action Workspace :=
  edit (ownership id) id operator unchecked fun _ now ws =>
    settled operator now (ws.deleteIntegrations now integrations)

/-- Make another member an owner, and the caller a maintainer. -/
def transferOwnership (id : WorkspaceId) (newOwner : UserId) (operator : Operator) :
    Action Workspace :=
  edit (ownership id) id operator
    (fun user => do
      if newOwner = user then throw .cannotChangeOwnerRole)
    fun user now ws => do
      match ws.members.userRole? newOwner with
      | none => throw .targetUserNotInWorkspace
      | some .reader => throw .cannotChangeRoleToOwner
      | some _ => pure ()
      settled operator now do
        (← ws.updateUserRole now newOwner .owner).updateUserRole now user .maintainer

/-- Remove a workspace and every binding to it. -/
def remove (id : WorkspaceId) (operator : Operator) : Action Unit := do
  let _ ← Action.ofExcept operator.actor
  (ownership id).run (some operator) do
    notPersonal (← .query (.workspace .none id))
    Program.command (.removeWorkspace .none id)
    stripBindings [id]

end Workspaces

end Roster
