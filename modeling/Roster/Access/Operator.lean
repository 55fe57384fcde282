import Roster.Workspace

/-!
# The caller and their reach

An operator is the caller of an operation together with the workspaces they have a say in, each
listed under the role they hold there. A role counts for all lower roles as well.
-/

namespace Roster

/-- The caller of an operation. -/
structure Operator where
  user : Option UserId := none
  readable : List WorkspaceId := []
  writable : List WorkspaceId := []
  maintainable : List WorkspaceId := []
  owning : List WorkspaceId := []
  defaultPolicy : Option PolicyId := none
  deriving DecidableEq, Repr, Inhabited

namespace Operator

/-- The ids of the workspaces in which a user has exactly this role and is enabled. -/
def bucket (user : UserId) (workspaces : List Workspace) (role : Role) : List WorkspaceId :=
  (workspaces.filter fun ws =>
    (ws.members.users.get? user).any fun member => !member.disabled && member.role = role).map
    Workspace.id

/-- The operator of a user who is a member of some of these workspaces. -/
def ofWorkspaces (user : UserId) (workspaces : List Workspace) (defaultPolicy : Option PolicyId) :
    Operator where
  user := some user
  readable := bucket user workspaces .reader
  writable := bucket user workspaces .writer
  maintainable := bucket user workspaces .maintainer
  owning := bucket user workspaces .owner
  defaultPolicy := defaultPolicy

/-- The user who acts; without one nothing can be done. -/
def actor (operator : Operator) : Except Error UserId :=
  match operator.user with
  | some user => .ok user
  | none => .error .invalidOperator

/-- The workspaces the operator owns. -/
def allOwning (operator : Operator) : List WorkspaceId :=
  distinct operator.owning

/-- The workspaces the operator maintains or owns. -/
def allMaintaining (operator : Operator) : List WorkspaceId :=
  distinct (operator.maintainable ++ operator.allOwning)

/-- The workspaces the operator may write to. -/
def allWritable (operator : Operator) : List WorkspaceId :=
  distinct (operator.writable ++ operator.allMaintaining)

/-- The workspaces the operator may read. -/
def allReadable (operator : Operator) : List WorkspaceId :=
  distinct (operator.readable ++ operator.allWritable)

/-- The workspaces in which the operator has at least a role. -/
def reach (operator : Operator) : Role → List WorkspaceId
  | .reader => operator.allReadable
  | .writer => operator.allWritable
  | .maintainer => operator.allMaintaining
  | .owner => operator.allOwning

/-- Whether the operator has at least a role in one of the workspaces. -/
def reachesAny (operator : Operator) (role : Role) (ids : List WorkspaceId) : Bool :=
  ids.any fun id => id ∈ operator.reach role

/-- Count a new workspace among those the operator owns. -/
def addNewWorkspace (operator : Operator) (id : WorkspaceId) : Operator :=
  if id ∈ operator.owning then operator
  else { operator with owning := operator.owning ++ [id] }

/-- The policy to apply: the default if none is asked for, and none if the empty one is. -/
def policy (operator : Operator) : (requested : Option PolicyId) → Option PolicyId
  | none => operator.defaultPolicy
  | some policy => if policy.text.isEmpty then none else some policy

end Operator

/-- For each role, workspaces in one of which the caller must have it; none means no demand. -/
structure Requirements where
  readable : Option (List WorkspaceId) := none
  writable : Option (List WorkspaceId) := none
  maintainable : Option (List WorkspaceId) := none
  owning : Option (List WorkspaceId) := none
  deriving DecidableEq, Repr

namespace Requirements

/-- The workspaces named for a role. -/
def forRole (requirements : Requirements) : Role → List WorkspaceId
  | .reader => requirements.readable.getD []
  | .writer => requirements.writable.getD []
  | .maintainer => requirements.maintainable.getD []
  | .owner => requirements.owning.getD []

/-- Whether an operator meets the demand for a role. -/
def metFor (requirements : Requirements) (operator : Operator) (role : Role) : Bool :=
  (requirements.forRole role).isEmpty || operator.reachesAny role (requirements.forRole role)

/-- Let an operator pass who meets every demand; without an operator there is no check. -/
def check (requirements : Requirements) : Option Operator → Except Error Unit
  | none => .ok ()
  | some operator =>
    if Role.all.all (requirements.metFor operator) then .ok () else .error .operationDenied

end Requirements

end Roster
