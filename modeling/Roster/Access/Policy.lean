import Roster.Ident

/-!
# Policy rules

A rule lets the holders of one role take some actions on one kind of resource. What no rule
allows is denied.
-/

namespace Roster

/-- A rule of the policy. -/
structure PolicyRule where
  /-- The name of the role that the rule is for. -/
  role : String
  /-- The kind of resource. -/
  resource : String
  /-- The actions allowed, where a star stands for every action. -/
  actions : List String
  deriving DecidableEq, Repr

/-- What a permission is asked for. -/
structure Resource where
  kind : String
  id : Option String := none
  /-- The workspace the resource lies in, whose bindings then count. -/
  workspace : Option WorkspaceId := none
  deriving DecidableEq, Repr

/-- Whether a rule allows an action on a kind of resource to someone with these roles. -/
def PolicyRule.allows (rule : PolicyRule) (roles : List String) (kind action : String) : Bool :=
  rule.resource = kind && rule.role ∈ roles && rule.actions.any fun a => a = "*" || a = action

/-- The rules that are in force. -/
abbrev Policy := List PolicyRule

/-- Whether some rule allows an action. -/
def Policy.allows (policy : Policy) (roles : List String) (kind action : String) : Bool :=
  policy.any (·.allows roles kind action)

end Roster
