import Roster.Service.Workspaces

/-!
# Operations on accounts

Users sign up, look each other up, change what is stored about themselves, and leave. Every user
has a personal workspace, which is made when they sign up, bears their name, and goes when they
go.
-/

namespace Roster

/-- What is known of a user who signs up; an id that is not chosen is drawn. -/
structure Signup where
  name : String
  email : String
  identity : Option Identity := none
  user : Option UserId := none
  workspace : Option WorkspaceId := none
  deriving DecidableEq, Repr

/-- What is to change of a user. -/
structure UserChange where
  name : Option String := none
  email : Option String := none
  lang : Option String := none
  theme : Option Theme := none
  description : Option String := none
  website : Option String := none
  photoUrl : Option String := none
  deriving DecidableEq, Repr

/-- The profile after a change. -/
def UserProfile.change (profile : UserProfile) (change : UserChange) : UserProfile where
  lang := change.lang.getD profile.lang
  theme := change.theme.getD profile.theme
  description := change.description.getD profile.description
  website := change.website.getD profile.website
  photoUrl := change.photoUrl.getD profile.photoUrl

namespace Accounts

/-- Fail if another user than the excepted one has an e-mail address. -/
def emailFree (email : String) (except : Option UserId) : Program Unit :=
  .refuseTaken (.userWithEmail email) (some ·.id ≠ except) (.alreadyExists ("email " ++ email))

/-- Fail if some user logs in as a subject. -/
def subjectFree (subject : String) : Program Unit :=
  .refuseTaken (.userWithSubject subject) (fun _ => true) (.alreadyExists ("subject " ++ subject))

/-- The chosen id, or else one that is drawn. -/
def chosenOrDrawn {kind : Entity} : Option (Ident kind) → Program (Ident kind)
  | some id => return id
  | none => Program.drawId

/-- The personal workspace of a user. -/
def personalPlan (id : WorkspaceId) (owner : UserId) (name : String)
    (defaultPolicy : Option PolicyId) : Workspace.Plan where
  id := some id
  name := some (Text.trim name)
  owner := some owner
  personal := true
  policy := defaultPolicy

/-- Create a user together with their personal workspace. -/
def signup (defaultPolicy : Option PolicyId) (request : Signup) : Action (User × Workspace) := do
  let email ← Action.ofExcept (normalizeEmail request.email)
  let now ← Action.now
  Usecase.run { transactional := true } none do
    emailFree email none
    if let some identity := request.identity then
      subjectFree identity.subject
    let id ← chosenOrDrawn request.user
    let home ← chosenOrDrawn request.workspace
    let ws ← Program.ofExcept ((personalPlan home id request.name defaultPolicy).build now)
    let user ← Program.ofExcept (User.create id request.name email ws.id now)
    let user := request.identity.elim user fun identity => (user.addIdentity identity now).1
    Program.command (.saveUser user)
    Program.command (.createWorkspace .none ws)
    return (user, ws)

/-- The user who logs in as a subject, with their workspace; they are signed up if need be. -/
def signupSubject (defaultPolicy : Option PolicyId) (subject email name : String) :
    Action (User × Workspace) := do
  if (Text.trim subject).isEmpty then throw (.invalidParameter "subject is required")
  match ← Usecase.runPlain (Program.queryOptional (.userWithSubject subject)) with
  | some user => return (user, ← Usecase.runPlain (.query (.workspace .none user.workspace)))
  | none => signup defaultPolicy { name, email, identity := some (.ofSubject subject) }

/-- The users with some ids. -/
def fetch (ids : List UserId) (operator : Operator) : Action (List User) := do
  let _ ← Action.ofExcept operator.actor
  Usecase.runPlain (.query (.users ids))

/-- The user who logs in as a subject. -/
def findBySubject (subject : String) : Action User :=
  Usecase.runPlain (.query (.userWithSubject subject))

/-- The user with a name or an e-mail address, if there is one. -/
def search (nameOrEmail : String) (operator : Operator) : Action (Option User) := do
  let _ ← Action.ofExcept operator.actor
  Usecase.runPlain (Program.queryOptional (.userMatching nameOrEmail))

/-- Give a user another name, and their personal workspace with them. -/
def rename (user : User) (name : String) (now : Time.Instant) : Program User := do
  let user ← Program.ofExcept (user.rename name now)
  let personal ← Program.query (.workspace .none user.workspace)
  Program.command (.saveWorkspaces .none [personal.rename now user.name])
  return user

/-- Change what is stored about the caller. -/
def updateMe (change : UserChange) (operator : Operator) : Action User := do
  let me ← Action.ofExcept operator.actor
  let now ← Action.now
  Usecase.run { transactional := true } (some operator) do
    let mut user ← Program.query (.user me)
    if let some name := change.name then
      user ← rename user name now
    if let some email := change.email then
      let email ← Program.ofExcept (normalizeEmail email)
      emailFree email (some me)
      user ← Program.ofExcept (user.updateEmail email now)
    let profile := user.profile.change change
    if profile ≠ user.profile then
      user := user.updateProfile profile now
    Program.command (.saveUser user)
    return user

/-- What becomes of a workspace when one of its members goes for good. -/
inductive Farewell
  /-- It stays, without them. -/
  | stays (ws : Workspace)
  /-- It goes as well. -/
  | goes (id : WorkspaceId)

/--
A workspace goes with a member who is its only one or whose home it is; an only owner does not
leave others behind.
-/
def farewell (user : UserId) (home : WorkspaceId) (now : Time.Instant) (ws : Workspace) :
    Except Error Farewell := do
  if ws.id = home || ws.members.count = 1 then return .goes ws.id
  if ws.members.isOnlyOwner user then throw .ownerCannotLeave
  return .stays (← ws.leave now user)

/-- The workspaces that stay. -/
def staying (farewells : List Farewell) : List Workspace :=
  farewells.filterMap fun
    | .stays ws => some ws
    | .goes _ => none

/-- The workspaces that go. -/
def going (farewells : List Farewell) : List WorkspaceId :=
  farewells.filterMap fun
    | .stays _ => none
    | .goes id => some id

/-- Remove the caller from every table. -/
def removeMe (operator : Operator) : Action Unit := do
  let me ← Action.ofExcept operator.actor
  let now ← Action.now
  Usecase.run { transactional := true } (some operator) do
    let user ← Program.query (.user me)
    let workspaces ← Program.query (.workspacesOf .none me)
    let farewells ← Program.ofExcept (workspaces.mapM (farewell me user.workspace now))
    Program.command (.saveWorkspaces .none (staying farewells))
    Program.command (.removeWorkspaces .none (going farewells))
    stripBindings (going farewells)
    if let some p ← Program.queryOptional (.permittableOf me) then
      Program.command (.removePermittable p.id)
    Program.command (.removeUser me)

/-- A user as an operator, with the reach they have now. -/
def operatorFor (defaultPolicy : Option PolicyId) (user : UserId) : Action Operator := do
  let workspaces ← Usecase.runPlain (.query (.workspacesOf .none user))
  return .ofWorkspaces user workspaces defaultPolicy

end Accounts

end Roster
