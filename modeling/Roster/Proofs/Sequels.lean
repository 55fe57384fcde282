import Roster.Proofs.Ownership

/-!
# What becomes of one workspace

Most of what an operation does to the tables is no matter of one given workspace. Looked at from the
row under one id, an operation that succeeds leaves it as it is, or it is one of the few that mean
this workspace: a change by an owner, a departure of members, a removal, a new name for the home of
the caller, or the farewell of the caller to every workspace.
-/

namespace Roster

/-- What an operation that succeeds makes of the workspace under an id. -/
inductive Operation.Sequel (operator : Operator) (t : Tables) (operation : Operation)
    (id : WorkspaceId) (row : Workspace) : Option Workspace → Prop
  | kept : Sequel operator t operation id row (some row)
  | edited {user : UserId} {ws' : Workspace} (hedited : operation.edited? = some id)
    (hactor : operator.user = some user) (howning : id ∈ operator.owning) (hid : ws'.id = row.id)
    (hchange :
      operation.Revises operator t user { row with name := Workspace.titled row.name } ws') :
    Sequel operator t operation id row (some ws')
  | departed {user : UserId} {leaving : List UserId} {ws' : Workspace}
    (hleaving : operation.leaving? = some (id, leaving)) (hactor : operator.user = some user)
    (hreadable : id ∈ operator.allReadable) (hid : ws'.id = row.id)
    (hleft : row.members.Left leaving ws'.members)
    (hwish : (∀ member ∈ leaving, member = user) ∨ row.members.userRole? user = some .owner) :
    Sequel operator t operation id row (some ws')
  | removed (hremoval : operation = .removeWorkspace id) (howning : id ∈ operator.owning)
    (hteam : row.isPersonal = false) : Sequel operator t operation id row none
  | renamed {me : UserId} {user : User} {change : UserChange} {ws' : Workspace}
    (hupdate : operation = .updateMe change) (hactor : operator.user = some me)
    (huser : t.users.get? me = some user) (hhome : user.workspace = id)
    (hrest : ws' = { row with name := ws'.name, updatedAt := ws'.updatedAt }) :
    Sequel operator t operation id row (some ws')
  | parted {me : UserId} {user : User} {fate : Option Workspace} (hgoing : operation = .removeMe)
    (hactor : operator.user = some me) (huser : t.users.get? me = some user)
    (hfate : Fate me user.workspace row fate) : Sequel operator t operation id row fate

variable {operator held : Operator} {operation : Operation} {t t' : Tables} {id : WorkspaceId}
  {row ws : Workspace}

/-- A workspace that is filed has the row under its id as its predecessor, and leaves the other rows
alone. -/
theorem Operation.Sequel.fileWorkspace {base : Tables} (hrow : t.workspaces.get? id = some row)
    (hbase : base.workspaces = t.workspaces)
    (hfile : ws.id = id → Sequel operator t operation id row (some ws)) :
    Sequel operator t operation id row ((base.fileWorkspace ws).workspaces.get? id) := by
  rw [Tables.fileWorkspace, Table.get?_insert, hbase, hrow]
  split
  · exact hfile ‹_›
  · exact .kept

/-- Every stored workspace has its sequel. -/
theorem Operation.Effect.sequel (heffect : Effect operator t operation held t') (hfiled : t.Filed)
    (hrow : t.workspaces.get? id = some row) :
    Sequel operator t operation id row (t'.workspaces.get? id) := by
  have hkept (hsame : t'.workspaces = t.workspaces) :
      Sequel operator t operation id row (t'.workspaces.get? id) := by
    rw [hsame, hrow]
    exact .kept
  -- A new workspace takes an id that was free.
  have hfree {new : Workspace} (hnone : t.workspaces.get? new.id = none) (hid : new.id = id) :
      Sequel operator t operation id row (some new) :=
    absurd (hrow.symm.trans (hid ▸ hnone)) (Option.some_ne_none row)
  cases heffect with
  | createWorkspace heffect =>
    obtain ⟨-, -, hnone⟩ := heffect
    exact .fileWorkspace hrow rfl (hfree hnone)
  | edit hedited heffect =>
    obtain ⟨hactor, howning, hshows, hid, hchange⟩ := heffect
    refine .fileWorkspace hrow rfl fun hsame => ?_
    rw [hid, hfiled.id_of_shows hshows] at hsame
    subst hsame
    obtain ⟨-, rfl⟩ := hshows.eq_of_get? hrow
    exact .edited hedited hactor howning hid hchange
  | leave hleaving heffect =>
    obtain ⟨hactor, hshows, hid, hleft, -, hrewrites, -, hreadable, hwish⟩ := heffect
    refine .fileWorkspace hrow hrewrites.workspaces fun hsame => ?_
    rw [hid, hfiled.id_of_shows hshows] at hsame
    subst hsame
    obtain ⟨-, rfl⟩ := hshows.eq_of_get? hrow
    exact .departed hleaving hactor hreadable hid hleft hwish
  | @removeWorkspace other _ heffect =>
    obtain ⟨-, howning, hshows, hteam, hrewrites⟩ := heffect
    rw [hrewrites.workspaces, Table.get?_erase]
    split
    · rename_i hsame
      subst hsame
      obtain ⟨-, rfl⟩ := hshows.eq_of_get? hrow
      unfold Workspace.isPersonal at hteam
      exact .removed rfl howning hteam
    · rw [hrow]
      exact .kept
  | signup heffect | signupNewSubject heffect =>
    obtain ⟨-, -, -, hnone⟩ := heffect
    exact .fileWorkspace hrow rfl (hfree hnone)
  | updateMe heffect =>
    cases heffect with
    | sameName => exact hkept rfl
    | newName hactor huser _ _ hshows hid _ _ _ _ _ _ _ hrest =>
      refine .fileWorkspace hrow rfl fun hsame => ?_
      rw [hid, hfiled.id_of_shows hshows] at hsame
      obtain ⟨-, rfl⟩ := hshows.eq_of_get? (hsame ▸ hrow)
      exact .renamed rfl hactor huser hsame hrest
  | removeMe heffect =>
    obtain ⟨hactor, huser, hfates⟩ := heffect
    exact .parted rfl hactor huser (hfates hrow)
  | removeRole heffect =>
    obtain ⟨hrewrites⟩ := heffect
    exact hkept hrewrites.workspaces
  | createRole heffect | updateRole heffect | updatePermittable heffect | addNewRole heffect =>
    obtain ⟨_⟩ := heffect
    exact hkept rfl
  | signupKnownSubject | addKnownRole => exact hkept rfl

end Roster
