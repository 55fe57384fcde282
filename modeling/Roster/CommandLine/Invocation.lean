import Roster.CommandLine.Help
import Roster.CommandLine.Words
import Roster.Service.Workspaces

/-!
# Invocations

A command line asks for one instruction, on behalf of some user, and may ask for a dry run. The
commands stand in groups; settings that concern every command may be given at any level, and those
given further on win.
-/

namespace Roster.CommandLine

/-- What can be asked for. -/
inductive Instruction
  | signup (name email : String) (subject : Option String)
  | searchUser (query : String)
  | showUser (id : UserId)
  /-- The acting user becomes the owner unless another one is named. -/
  | createWorkspace (name aliasName : String) (owner : Option UserId)
  | listWorkspaces
  | showWorkspace (id : WorkspaceId)
  | updateWorkspace (id : WorkspaceId) (change : WorkspaceChange)
  | transferOwnership (id : WorkspaceId) (newOwner : UserId)
  | removeWorkspace (id : WorkspaceId) (confirmed : Bool)
  | addMember (id : WorkspaceId) (user : UserId) (role : Role)
  | updateMember (id : WorkspaceId) (user : UserId) (role : Role)
  | removeMembers (id : WorkspaceId) (users : List UserId)
  | addIntegration (id : WorkspaceId) (integration : IntegrationId) (role : Role)
  | updateIntegration (id : WorkspaceId) (integration : IntegrationId) (role : Role)
  | removeIntegrations (id : WorkspaceId) (integrations : List IntegrationId)
  | createRole (name : String)
  | renameRole (id : RoleId) (name : String)
  | listRoles
  | removeRole (id : RoleId)
  /-- The roles hold in one workspace if one is named, and everywhere otherwise. -/
  | assignRoles (user : UserId) (roles : List RoleId) (workspace : Option WorkspaceId)
  | listHolders
  | check (user : UserId) (resource action : String) (workspace : Option WorkspaceId)
  | showConfig
  | initConfig
  deriving DecidableEq, Repr

/-- An instruction and how it is to be carried out. -/
structure Invocation where
  instruction : Instruction
  /-- Whether nothing is to be saved. -/
  dryRun : Bool
  /-- The user on whose behalf the instruction is carried out. -/
  acting : Option UserId
  deriving DecidableEq, Repr

/-- A single command: what may stand behind its name, and what that asks for. -/
structure Leaf where
  level : Level
  instruction : Found → Option Instruction

/-- What the first word of a command line names. -/
inductive Entry
  | leaf (leaf : Leaf)
  /-- A group of commands; some groups ask for something by themselves. -/
  | group (bare : Option Instruction) (leaves : List (String × Leaf))

/-! ## Reading what was found -/

namespace Found

/-- The value of a setting. -/
def value? (found : Found) (name : String) : Option String :=
  found.values.lookup name

/-- The id given as the value of a setting. -/
def id? {kind : Entity} (found : Found) (name : String) : Option (Ident kind) :=
  (found.value? name).map Ident.mk

/-- The role given as the value of a setting; `none` if that is no role or must be given. -/
def role? (found : Found) (default : Option Role) : Option Role :=
  match found.value? "role" with
  | some s => (Role.parse s).toOption
  | none => default

end Found

/-! ## The commands -/

/-- A command with settings of its own and places for words. -/
def leafOf (settings : List Setting) (places : List Place)
    (instruction : Found → Option Instruction) : Leaf where
  level := { settings := settings ++ sharedSettings, places }
  instruction := instruction

/-- A place for one word. -/
def place (name : String) : Place :=
  { name }

/-- A role that may be left out. -/
def roleSetting : Setting :=
  { Setting.valued "role" "ROLE" with default := some Role.reader.name, isRole := true }

/-- A role that must be given. -/
def requiredRole : Setting :=
  { Setting.valued "role" "ROLE" with required := true, isRole := true }

/-- A name that must be given. -/
def requiredName : Setting :=
  { Setting.valued "name" "NAME" with required := true }

/-- The commands on users. -/
def userCommands : List (String × Leaf) :=
  [("signup", leafOf [requiredName, { Setting.valued "email" "EMAIL" with required := true },
      .valued "sub" "SUB" "OIDC subject, e.g. auth0|123"] [] fun found => do
      return .signup (← found.value? "name") (← found.value? "email") (found.value? "sub")),
   ("search", leafOf [] [place "QUERY"] fun found => do
      let [query] := found.words | none
      return .searchUser query),
   ("show", leafOf [] [place "ID"] fun found => do
      let [id] := found.words | none
      return .showUser ⟨id⟩)]

/-- The commands on workspaces. -/
def workspaceCommands : List (String × Leaf) :=
  [("create", leafOf [requiredName, { Setting.valued "alias" "ALIAS" with default := some "" },
      .valued "owner" "OWNER" "First owner (defaults to the acting user)"] [] fun found => do
      let aliasName := (found.value? "alias").getD ""
      return .createWorkspace (← found.value? "name") aliasName (found.id? "owner")),
   ("list", leafOf [] [] fun _ => some .listWorkspaces),
   ("show", leafOf [] [place "ID"] fun found => do
      let [id] := found.words | none
      return .showWorkspace ⟨id⟩),
   ("update", leafOf [.valued "name" "NAME", .valued "alias" "ALIAS", .valued "email" "EMAIL",
      .valued "policy" "POLICY" "Policy id, empty to clear"] [place "ID"] fun found => do
      let [id] := found.words | none
      return .updateWorkspace ⟨id⟩ {
        name := found.value? "name"
        aliasName := found.value? "alias"
        email := found.value? "email"
        policy := found.id? "policy" }),
   ("transfer", leafOf [] [place "ID", place "NEW_OWNER"] fun found => do
      let [id, newOwner] := found.words | none
      return .transferOwnership ⟨id⟩ ⟨newOwner⟩),
   ("remove", leafOf [{ name := "yes", about := "Skip the confirmation prompt" }] [place "ID"]
      fun found => do
        let [id] := found.words | none
        return .removeWorkspace ⟨id⟩ ("yes" ∈ found.flags))]

/-- The commands on the users of a workspace. -/
def memberCommands : List (String × Leaf) :=
  [("add", leafOf [roleSetting] [place "WORKSPACE", place "USER"] fun found => do
      let [id, user] := found.words | none
      return .addMember ⟨id⟩ ⟨user⟩ (← found.role? (some .reader))),
   ("update", leafOf [requiredRole] [place "WORKSPACE", place "USER"] fun found => do
      let [id, user] := found.words | none
      return .updateMember ⟨id⟩ ⟨user⟩ (← found.role? none)),
   ("remove", leafOf [] [place "WORKSPACE", { name := "USERS", many := true }] fun found => do
      let id :: users@(_ :: _) := found.words | none
      return .removeMembers ⟨id⟩ (users.map Ident.mk))]

/-- The commands on the integrations of a workspace. -/
def integrationCommands : List (String × Leaf) :=
  [("add", leafOf [roleSetting] [place "WORKSPACE", place "INTEGRATION"] fun found => do
      let [id, integration] := found.words | none
      return .addIntegration ⟨id⟩ ⟨integration⟩ (← found.role? (some .reader))),
   ("update", leafOf [requiredRole] [place "WORKSPACE", place "INTEGRATION"] fun found => do
      let [id, integration] := found.words | none
      return .updateIntegration ⟨id⟩ ⟨integration⟩ (← found.role? none)),
   ("remove", leafOf [] [place "WORKSPACE", { name := "INTEGRATIONS", many := true }]
      fun found => do
        let id :: integrations@(_ :: _) := found.words | none
        return .removeIntegrations ⟨id⟩ (integrations.map Ident.mk))]

/-- The commands on access roles. -/
def roleCommands : List (String × Leaf) :=
  [("create", leafOf [] [place "NAME"] fun found => do
      let [name] := found.words | none
      return .createRole name),
   ("rename", leafOf [] [place "ID", place "NAME"] fun found => do
      let [id, name] := found.words | none
      return .renameRole ⟨id⟩ name),
   ("list", leafOf [] [] fun _ => some .listRoles),
   ("remove", leafOf [] [place "ID"] fun found => do
      let [id] := found.words | none
      return .removeRole ⟨id⟩)]

/-- The commands on who holds which access role. -/
def permittableCommands : List (String × Leaf) :=
  let assign := leafOf [.valued "workspace" "WORKSPACE"]
    [place "USER", { name := "ROLES", required := false, many := true }] fun found => do
      let user :: roles := found.words | none
      return .assignRoles ⟨user⟩ (roles.map Ident.mk) (found.id? "workspace")
  let about :=
    "Replaces the global roles of a user, or binds them to one workspace with --workspace"
  [("assign", { assign with level := { assign.level with about } }),
   ("list", leafOf [] [] fun _ => some .listHolders)]

/-- The command that asks for a permission. -/
def checkCommand : Leaf :=
  let check := leafOf [.valued "workspace" "WORKSPACE" "Workspace the resource belongs to"]
    [place "USER", place "RESOURCE", place "ACTION"] fun found => do
      let [user, resource, action] := found.words | none
      return .check ⟨user⟩ resource action (found.id? "workspace")
  let about := "Asks the policy engine whether a user may perform an action"
  { check with level := { check.level with about } }

/-- The commands on the configuration. -/
def configCommands : List (String × Leaf) :=
  [("show", leafOf [] [] fun _ => some .showConfig),
   ("init", leafOf [] [] fun _ => some .initConfig)]

/-- All commands by their first words. -/
def entries : List (String × Entry) :=
  [("user", .group none userCommands),
   ("workspace", .group none workspaceCommands),
   ("member", .group none memberCommands),
   ("integration", .group none integrationCommands),
   ("role", .group none roleCommands),
   ("permittable", .group none permittableCommands),
   ("check", .leaf checkCommand),
   ("config", .group (some .showConfig) configCommands)]

/-! ## Levels -/

/-- The level of a group of commands. -/
def groupLevel (bare : Option Instruction) (leaves : List (String × Leaf)) : Level where
  commands := leaves.map fun (name, leaf) => (name, leaf.level.about)
  commandRequired := bare.isNone

namespace Entry

/-- The level that an entry leads to. -/
def level : Entry → Level
  | leaf command => command.level
  | group bare leaves => groupLevel bare leaves

/-- The commands in an entry. -/
def leaves : Entry → List (String × Leaf)
  | leaf _ => []
  | group _ leaves => leaves

end Entry

/-- The first level. -/
def topLevel : Level where
  about := "Users, workspaces and memberships - admin tool for the tenant directory"
  commands := entries.map fun (name, entry) => (name, entry.level.about)
  hasVersion := true

/-- The level that some words lead to, if each names a command of the one before. -/
def levelAt? : List String → Option Level
  | [] => some topLevel
  | ["help"] => some .ofHelp
  | [name] => (entries.lookup name).map Entry.level
  | [name, command] => do
    let entry ← entries.lookup name
    if command = "help" && !entry.leaves.isEmpty then return .ofHelp
    return (← entry.leaves.lookup command).level
  | _ => none

/-! ## Reading a command line -/

/-- What a command line turns out to be. -/
inductive Reading
  | run (invocation : Invocation)
  /-- It asks for the version of the program. -/
  | version
  /-- It asks how what some words lead to is used. -/
  | help (path : List String)
  /-- It is not well-formed. -/
  | refused
  deriving DecidableEq, Repr

/-- The invocation of an instruction, given what was found at the levels, the last one first. -/
def invoke (instruction : Instruction) (levels : List Found) : Reading :=
  .run {
    instruction
    dryRun := levels.any fun found => "dry-run" ∈ found.flags
    acting := levels.findSome? fun found => found.id? "as" }

/-- Ask for help on what words lead to. -/
def readHelp (path : List String) : Reading :=
  if (levelAt? path).isSome then .help path else .refused

/-- Read on after a level. What is wrong with the value that was found last goes unnoticed when
help is asked for. -/
def descend (found : Found) (deeper : Found → Reading) : Reading :=
  match found.settle? with
  | some found => deeper found
  | none =>
    match deeper found with
    | .help path => .help path
    | _ => .refused

/-- Read the words of a single command. -/
def readLeaf (path : List String) (leaf : Leaf) (outer : List Found) (words : List String) :
    Reading :=
  match leaf.level.scan {} words with
  | .ended found =>
    match leaf.instruction found with
    | some instruction => invoke instruction (found :: outer)
    | none => .refused
  | .help rest => readHelp (path ++ rest)
  | _ => .refused

/-- Read the words of a group of commands. -/
def readGroup (group : String) (bare : Option Instruction) (leaves : List (String × Leaf))
    (outer : List Found) (words : List String) : Reading :=
  match (groupLevel bare leaves).scan {} words with
  | .entered name rest found =>
    match leaves.lookup name with
    | some leaf => descend found fun found => readLeaf [group, name] leaf (found :: outer) rest
    | none => .refused
  | .ended found =>
    match bare with
    | some instruction => invoke instruction (found :: outer)
    | none => .refused
  | .help rest => readHelp (group :: rest)
  | _ => .refused

/-- Read a command line. -/
def read (words : List String) : Reading :=
  match topLevel.scan {} words with
  | .entered name rest found =>
    match entries.lookup name with
    | some (.leaf leaf) => descend found fun found => readLeaf [name] leaf [found] rest
    | some (.group bare leaves) =>
      descend found fun found => readGroup name bare leaves [found] rest
    | none => .refused
  | .version => .version
  | .help rest => readHelp rest
  | _ => .refused

end Roster.CommandLine
