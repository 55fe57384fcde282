import Roster.Proofs.Integrity

/-!
# Owners

An owner of a workspace stays one through every operation, apart from the few that take the seat
of an owner from them. An operator that has just been looked up lists only what its user owns, so
only an owner demotes others, and nobody demotes themselves unless they put another owner in
their place: no workspace loses its last owner.
-/

namespace Roster

/-- A user is a member of a stored workspace, with this membership. -/
def Tables.Seats (t : Tables) (id : WorkspaceId) (user : UserId) (member : Member) : Prop :=
  ∃ ws, t.workspaces.get? id = some ws ∧ ws.members.users.get? user = some member

/-- A user is an owner of a stored workspace and not disabled there. -/
def Tables.Owns (t : Tables) (user : UserId) (id : WorkspaceId) : Prop :=
  ∃ member, t.Seats id user member ∧ member.role = .owner ∧ member.disabled = false

/-- Some user among the members is an owner. -/
def Members.Owned (members : Members) : Prop :=
  ∃ user member, members.users.get? user = some member ∧ member.role = .owner

/-- Every stored workspace has an owner. -/
structure Tables.Owned (t : Tables) : Prop where
  owner : ∀ {id ws}, t.workspaces.get? id = some ws → ws.members.Owned

/-- The operations that take the seat of an owner in a workspace from them: someone demotes or
removes them, they hand their ownership over, or the workspace or they themselves go for good. -/
def Operation.Unseats (operator : Operator) (owner : UserId) (id : WorkspaceId) : Operation → Prop
  | updateUserMember workspace member _ => workspace = id ∧ member = owner
  | removeUserMember workspace member => workspace = id ∧ member = owner
  | removeMultipleUserMembers workspace members => workspace = id ∧ owner ∈ members
  | transferOwnership workspace _ => workspace = id ∧ operator.user = some owner
  | removeWorkspace workspace => workspace = id
  | removeMe => operator.user = some owner
  | _ => False

/-! ## Members -/

namespace Members

variable {members members' : Members} {user other : UserId} {role : Role}

/-- The owner of a new workspace owns it. -/
theorem owned_ofOwner (owner : UserId) (fixed : Bool) : (Members.ofOwner owner fixed).Owned :=
  ⟨owner, .new .owner owner, by rw [ofOwner, Table.get?_insert, if_pos rfl], rfl⟩

/-- Some user is an owner exactly when owners are listed. -/
theorem owned_iff : members.Owned ↔ ∃ owner, owner ∈ members.usersByRole .owner := by
  simp only [Owned, mem_usersByRole]

/-- A user who gets another role keeps the rest of their membership. -/
theorem Reseated.get?_self (h : members.Reseated user role members') :
    ∃ member, members.users.get? user = some member ∧
      members'.users.get? user = some { member with role } := by
  obtain ⟨member, hmember, husers⟩ := h.users
  exact ⟨member, hmember, by rw [husers, Table.get?_insert, if_pos rfl]⟩

/-- Another role of one user is no matter of the others. -/
theorem Reseated.get?_of_ne (h : members.Reseated user role members') (hne : other ≠ user) :
    members'.users.get? other = members.users.get? other := by
  obtain ⟨member, -, husers⟩ := h.users
  rw [husers, Table.get?_insert, if_neg hne.symm]

end Members

namespace Operation

variable {operator : Operator} {operation : Operation} {t : Tables} {user owner : UserId}
  {ws ws' : Workspace} {member : Member}

/-- A change by an owner leaves the seats of all owners that it does not take. -/
theorem Revises.seat (h : operation.Revises operator t user ws ws') (hactor : operator.user = some user)
    {id : WorkspaceId} (hid : operation.edited? = some id)
    (hmember : ws.members.users.get? owner = some member) (hrole : member.role = .owner)
    (hkept : ¬ operation.Unseats operator owner id) :
    ws'.members.users.get? owner = some member := by
  cases operation with
  | updateWorkspace workspace change =>
    obtain ⟨-, hmembers⟩ := h
    rw [hmembers]
    exact hmember
  | addUserMember workspace users => exact h.1.kept hmember
  | updateUserMember workspace target role =>
    obtain ⟨-, -, hreseated⟩ := h
    have hne : owner ≠ target := fun heq => hkept ⟨Option.some.inj hid, heq.symm⟩
    rw [hreseated.get?_of_ne hne]
    exact hmember
  | transferOwnership workspace newOwner =>
    obtain ⟨-, between, hpromoted, hdemoted⟩ := h
    have hne : owner ≠ user := fun heq => hkept ⟨Option.some.inj hid, heq ▸ hactor⟩
    rw [hdemoted.get?_of_ne hne]
    by_cases hnew : owner = newOwner
    · -- Promoting an owner changes nothing about them.
      obtain ⟨before, hbefore, hafter⟩ := hpromoted.get?_self
      rw [hnew, hafter]
      rw [hnew, hbefore] at hmember
      obtain rfl := Option.some.inj hmember
      rw [← hrole]
    · rw [hpromoted.get?_of_ne hnew]
      exact hmember
  | _ =>
    obtain ⟨⟨husers, -⟩, -⟩ := h
    rw [husers]
    exact hmember

/-- A workspace that one of its owners changes has an owner afterwards. -/
theorem Revises.owned (h : operation.Revises operator t user ws ws')
    (hmember : ws.members.users.get? user = some member) (hrole : member.role = .owner) :
    ws'.members.Owned := by
  cases operation with
  | updateWorkspace workspace change =>
    obtain ⟨-, hmembers⟩ := h
    rw [hmembers]
    exact ⟨user, member, hmember, hrole⟩
  | addUserMember workspace users => exact ⟨user, member, h.1.kept hmember, hrole⟩
  | updateUserMember workspace target role =>
    obtain ⟨hother, -, hreseated⟩ := h
    exact ⟨user, member, (hreseated.get?_of_ne hother.symm).trans hmember, hrole⟩
  | transferOwnership workspace newOwner =>
    obtain ⟨hother, between, hpromoted, hdemoted⟩ := h
    obtain ⟨before, -, hafter⟩ := hpromoted.get?_self
    exact ⟨newOwner, _, (hdemoted.get?_of_ne hother).trans hafter, rfl⟩
  | _ =>
    obtain ⟨⟨husers, -⟩, -⟩ := h
    exact ⟨user, member, husers ▸ hmember, hrole⟩

/-- Whoever is among those who leave loses their seat. -/
theorem unseats_of_leaving {id : WorkspaceId} {leaving : List UserId}
    (h : operation.leaving? = some (id, leaving)) (howner : owner ∈ leaving) :
    operation.Unseats operator owner id := by
  cases operation with
  | removeUserMember workspace member =>
    cases h
    exact ⟨rfl, (List.mem_singleton.1 howner).symm⟩
  | removeMultipleUserMembers workspace members =>
    cases h
    exact ⟨rfl, howner⟩
  | _ => exact nomatch h

end Operation

/-! ## Stored workspaces -/

namespace Tables

variable {t t' : Tables} {id : WorkspaceId} {user : UserId} {member : Member} {ws : Workspace}

/-- Seats are a matter of the stored workspaces only. -/
theorem Seats.congr (h : t.Seats id user member) (hworkspaces : t'.workspaces = t.workspaces) :
    t'.Seats id user member := by
  rw [Seats, hworkspaces]
  exact h

/-- A seat outlasts the filing of a workspace that does not take it. -/
theorem Seats.fileWorkspace (h : t.Seats id user member)
    (hkept : ws.id = id → ws.members.users.get? user = some member) :
    (t.fileWorkspace ws).Seats id user member := by
  obtain ⟨row, hrow, hmember⟩ := h
  by_cases hid : ws.id = id
  · exact ⟨ws, get?_fileWorkspace.2 (.inl ⟨hid, rfl⟩), hkept hid⟩
  · exact ⟨row, get?_fileWorkspace.2 (.inr ⟨hid, hrow⟩), hmember⟩

/-- A seat outlasts the filing of a workspace under an id that was free. -/
theorem Seats.fileNew (h : t.Seats id user member) (hfree : t.workspaces.get? ws.id = none) :
    (t.fileWorkspace ws).Seats id user member := by
  refine h.fileWorkspace fun hid => ?_
  obtain ⟨row, hrow, -⟩ := h
  rw [hid, hrow] at hfree
  exact nomatch hfree

/-- A workspace that is given out seats whoever is seated in the stored one. -/
theorem Seats.of_shows (h : t.Seats id user member) (hshows : t.Shows id ws) :
    ws.members.users.get? user = some member := by
  obtain ⟨row, hrow, hmember⟩ := h
  obtain ⟨row', hrow', -, -, hmembers, -⟩ := hshows.stored
  rw [hrow] at hrow'
  obtain rfl := Option.some.inj hrow'
  rw [hmembers]
  exact hmember

/-- A workspace that is given out has the id it was asked for under. -/
theorem Filed.id_of_shows (h : t.Filed) (hshows : t.Shows id ws) : ws.id = id := by
  obtain ⟨row, hrow, -, hid, -⟩ := hshows.stored
  exact hid.trans (h.workspaces hrow)

/-- Owners are a matter of the stored workspaces only. -/
theorem Owned.congr (h : t.Owned) (hworkspaces : t'.workspaces = t.workspaces) : t'.Owned where
  owner := fun hws => h.owner (hworkspaces ▸ hws)

/-- A workspace that has an owner may be filed. -/
theorem Owned.fileWorkspace (h : t.Owned) (hws : ws.members.Owned) :
    (t.fileWorkspace ws).Owned where
  owner := fun {id w} hw => by
    obtain ⟨-, rfl⟩ | ⟨-, hw⟩ := get?_fileWorkspace.1 hw
    · exact hws
    · exact h.owner hw

/-- A workspace that is given out has an owner if every stored one does. -/
theorem Owned.of_shows (h : t.Owned) (hshows : t.Shows id ws) : ws.members.Owned := by
  obtain ⟨row, hrow, -, -, hmembers, -⟩ := hshows.stored
  exact hmembers ▸ h.owner hrow

end Tables

namespace Fate

variable {me user : UserId} {home : WorkspaceId} {row ws : Workspace} {member : Member}

/-- Others keep their seats when a user goes who is at home somewhere by themselves. -/
theorem seat {fate : Option Workspace} (h : Fate me home row fate)
    (hhome : row.id = home → ∃ seat, row.members.users.rows = [seat])
    (hmember : row.members.users.get? user = some member) (hne : user ≠ me) :
    ∃ ws, fate = some ws ∧ ws.members.users.get? user = some member := by
  cases h with
  | spared => exact ⟨row, rfl, hmember⟩
  | closed hme hreason =>
    have hsole : ∃ seat, row.members.users.rows = [seat] := by
      obtain hrow | hcount := hreason
      · exact hhome hrow
      · exact List.length_eq_one_iff.1 hcount
    obtain ⟨⟨key, seat⟩, hrows⟩ := hsole
    obtain ⟨mine, hmine⟩ := Table.contains_iff.1 hme
    rw [Table.get?_of_rows_eq_singleton hrows] at hmine hmember
    have hkey : key = me := by
      by_contra hkey
      rw [if_neg hkey] at hmine
      exact nomatch hmine
    rw [hkey, if_neg hne.symm] at hmember
    exact nomatch hmember
  | @left ws _ _ _ hleft =>
    refine ⟨ws, rfl, ?_⟩
    rw [hleft.users, if_neg (by simpa using hne)]
    exact hmember

/-- A workspace that remains has an owner if it had one before. -/
theorem owned (h : Fate me home row (some ws)) (howned : row.members.Owned) : ws.members.Owned := by
  cases h with
  | spared => exact howned
  | left _ _ _ hleft hother =>
    obtain ⟨first, hfirst⟩ := Members.owned_iff.1 howned
    obtain ⟨owner, howner, hne⟩ :=
      Members.exists_other_owner hother (List.ne_nil_of_mem hfirst)
    obtain ⟨member, hmember, hrole⟩ := Members.mem_usersByRole.1 howner
    refine ⟨owner, member, ?_, hrole⟩
    rw [hleft.users, if_neg (by simpa using hne)]
    exact hmember

end Fate

/-! ## Operations -/

namespace Operation.Effect

variable {operator held : Operator} {operation : Operation} {t t' : Tables}

/-- An operation that succeeds leaves the seats of all owners that it does not take. -/
theorem seat (heffect : Effect operator t operation held t') (hsound : t.Sound)
    {id : WorkspaceId} {owner : UserId} {member : Member} (hseat : t.Seats id owner member)
    (hrole : member.role = .owner) (hkept : ¬ operation.Unseats operator owner id) :
    t'.Seats id owner member := by
  cases heffect with
  | createWorkspace heffect =>
    obtain ⟨-, -, hfree, -, -⟩ := heffect
    exact hseat.fileNew hfree
  | edit hedited heffect =>
    obtain ⟨hactor, -, hshows, hid, hchange⟩ := heffect
    refine hseat.fileWorkspace fun hsame => ?_
    rw [hid, hsound.filed.id_of_shows hshows] at hsame
    subst hsame
    exact hchange.seat hactor hedited (hseat.of_shows hshows) hrole hkept
  | leave hleaving heffect =>
    obtain ⟨-, hshows, hid, hleft, -, hrewrites⟩ := heffect
    refine (hseat.congr hrewrites.workspaces).fileWorkspace fun hsame => ?_
    rw [hid, hsound.filed.id_of_shows hshows] at hsame
    subst hsame
    rw [hleft.users, if_neg fun hmem => hkept (unseats_of_leaving hleaving hmem)]
    exact hseat.of_shows hshows
  | removeWorkspace heffect =>
    obtain ⟨-, -, -, -, hrewrites⟩ := heffect
    obtain ⟨row, hrow, hmember⟩ := hseat
    refine ⟨row, ?_, hmember⟩
    rw [hrewrites.workspaces]
    exact Table.get?_erase_eq_some.2 ⟨hkept, hrow⟩
  | signup heffect | signupNewSubject heffect =>
    obtain ⟨-, -, -, hfree, -, -⟩ := heffect
    exact Tables.Seats.fileNew (hseat.congr rfl) hfree
  | updateMe heffect =>
    cases heffect with
    | sameName => exact hseat.congr rfl
    | newName _ _ _ _ hshows hid hmembers =>
      refine Tables.Seats.congr (hseat.fileWorkspace fun hsame => ?_) rfl
      rw [hid, hsound.filed.id_of_shows hshows] at hsame
      subst hsame
      rw [hmembers]
      exact hseat.of_shows hshows
  | removeMe heffect =>
    obtain ⟨hactor, huser, hfates, -, -, -, -, -⟩ := heffect
    obtain ⟨row, hrow, hmember⟩ := hseat
    have hne : owner ≠ _ := fun heq => hkept (heq ▸ hactor)
    refine (hfates hrow).seat (fun hid => ?_) hmember hne
    obtain ⟨home, hhome, hof⟩ := hsound.homes huser
    rw [← hid, hsound.workspaces hrow, hrow] at hhome
    obtain rfl := Option.some.inj hhome
    obtain ⟨_, hrows, -⟩ := hof.sole
    exact ⟨_, hrows⟩
  | removeRole heffect =>
    obtain ⟨hrewrites⟩ := heffect
    exact hseat.congr hrewrites.workspaces
  | createRole heffect | updateRole heffect | updatePermittable heffect | addNewRole heffect =>
    obtain ⟨_⟩ := heffect
    exact hseat.congr rfl
  | signupKnownSubject | addKnownRole => exact hseat

/-- An operation that succeeds for someone who owns every workspace they count among their own
leaves an owner in every workspace. -/
theorem owned (heffect : Effect operator t operation held t') (howned : t.Owned)
    (hbacked : ∀ {user}, operator.user = some user → ∀ id ∈ operator.owning, t.Owns user id) :
    t'.Owned := by
  cases heffect with
  | createWorkspace heffect =>
    obtain ⟨-, -, -, -, hmembers⟩ := heffect
    exact howned.fileWorkspace (hmembers ▸ Members.owned_ofOwner _ _)
  | edit _ heffect =>
    obtain ⟨hactor, howning, hshows, -, hchange⟩ := heffect
    obtain ⟨member, hseat, hrole, -⟩ := hbacked hactor _ howning
    exact howned.fileWorkspace (hchange.owned (hseat.of_shows hshows) hrole)
  | leave _ heffect =>
    obtain ⟨-, -, -, -, howner, hrewrites⟩ := heffect
    exact (howned.congr hrewrites.workspaces).fileWorkspace (Members.owned_iff.2 howner)
  | removeWorkspace heffect =>
    obtain ⟨-, -, -, -, hrewrites⟩ := heffect
    refine ⟨fun hws => ?_⟩
    rw [hrewrites.workspaces] at hws
    exact howned.owner (Table.get?_erase_eq_some.1 hws).2
  | signup heffect | signupNewSubject heffect =>
    obtain ⟨-, -, -, -, -, hmembers⟩ := heffect
    exact Tables.Owned.fileWorkspace (howned.congr rfl) (hmembers ▸ Members.owned_ofOwner _ _)
  | updateMe heffect =>
    cases heffect with
    | sameName => exact howned.congr rfl
    | newName _ _ _ _ hshows _ hmembers =>
      exact (howned.fileWorkspace (hmembers ▸ howned.of_shows hshows)).congr rfl
  | removeMe heffect =>
    obtain ⟨-, -, hfates, hnothing, -, -, -, -⟩ := heffect
    refine ⟨fun {id ws} hws => ?_⟩
    cases hrow : t.workspaces.get? id with
    | none => exact nomatch (hnothing hrow).symm.trans hws
    | some row => exact Fate.owned (hws ▸ hfates hrow) (howned.owner hrow)
  | removeRole heffect =>
    obtain ⟨hrewrites⟩ := heffect
    exact howned.congr hrewrites.workspaces
  | createRole heffect | updateRole heffect | updatePermittable heffect | addNewRole heffect =>
    obtain ⟨_⟩ := heffect
    exact howned.congr rfl
  | signupKnownSubject | addKnownRole => exact howned

end Operation.Effect

/-- A call leaves an owner in every workspace if its operator owns every workspace they count
among their own. -/
theorem Tables.Owned.of_call {store : Store} (h : store.tables.Owned) (call : Call)
    (hfiled : store.tables.Filed)
    (hbacked : ∀ {user}, call.operator.user = some user → ∀ id ∈ call.operator.owning,
      store.tables.Owns user id) :
    (call.perform store).2.tables.Owned := by
  obtain ⟨error, hcall⟩ | ⟨held, store', hcall, heffect⟩ := call.perform_cases hfiled
  · rw [hcall]
    exact h
  · rw [hcall]
    exact heffect.owned h hbacked

/-! ## Operators -/

namespace Accounts

variable {defaultPolicy : Option PolicyId} {user : UserId} {operator : Operator} {moment : Moment}
  {directory directory' : Directory}

/-- An operator is looked up among the workspaces that list the user, and nothing is changed. -/
theorem perform_operatorFor_eq_ok :
    (operatorFor defaultPolicy user).perform moment directory = (.ok operator, directory') ↔
      ∃ workspaces, (Query.workspacesOf .none user).answer directory.store.tables = .ok workspaces ∧
        operator = .ofWorkspaces user workspaces defaultPolicy ∧ directory' = directory := by
  simp only [operatorFor, Action.perform_bind_eq_ok, Usecase.perform_runPlain_query,
    Action.perform_pure, Prod.mk.injEq, ok_eq_ok_comm]
  constructor
  · rintro ⟨workspaces, _, ⟨hanswer, rfl⟩, rfl, rfl⟩
    exact ⟨workspaces, hanswer, rfl, rfl⟩
  · rintro ⟨workspaces, hanswer, rfl, rfl⟩
    exact ⟨workspaces, _, ⟨hanswer, rfl⟩, rfl, rfl⟩

/-- The rows that are looked up for a user are those with the user among the members. -/
theorem mem_rowsOf {t : Tables} {row : Workspace} :
    row ∈ t.workspaces.values.filter (fun ws =>
      ws.members.users.contains user && Filter.none.canRead ws.id) ↔
      ∃ key, t.workspaces.get? key = some row ∧ row.members.users.contains user = true := by
  rw [List.mem_filter, Table.mem_values_iff, ← exists_and_right]
  refine exists_congr fun key => and_congr_right fun _ => ?_
  rw [Bool.and_eq_true_iff]
  exact and_iff_left rfl

/-- The workspaces of a user are given out exactly if each of them can be. -/
theorem exists_answer_workspacesOf_iff {t : Tables} :
    (∃ workspaces, (Query.workspacesOf .none user).answer t = .ok workspaces) ↔
      ∀ key row, t.workspaces.get? key = some row → row.members.users.contains user = true →
        row.Restorable := by
  constructor
  · rintro ⟨workspaces, hanswer⟩ key row hrow hmember
    obtain ⟨ws, -, hrestore⟩ := (mapM_eq_ok (hanswer : List.mapM _ _ = _)).1 row
      (mem_rowsOf.2 ⟨key, hrow, hmember⟩)
    exact (Workspace.restore_eq_ok.1 hrestore).1
  · intro hfit
    refine exists_mapM_eq_ok fun row hrow => ?_
    obtain ⟨key, hrow, hmember⟩ := mem_rowsOf.1 hrow
    exact Workspace.exists_restore_iff.2 (hfit key row hrow hmember)

/-- The workspaces that a user has a role in are those whose rows say so, wherever they are filed. -/
theorem mem_bucket_iff {t : Tables} {workspaces : List Workspace}
    (hanswer : (Query.workspacesOf .none user).answer t = .ok workspaces) {role : Role}
    {id : WorkspaceId} : id ∈ Operator.bucket user workspaces role ↔
      ∃ key row member, t.workspaces.get? key = some row ∧ row.id = id ∧
        row.members.users.get? user = some member ∧ member.disabled = false ∧ member.role = role := by
  obtain ⟨hrestored, hrows⟩ := mapM_eq_ok (hanswer : List.mapM _ _ = _)
  simp only [Operator.bucket, List.mem_map, List.mem_filter, Option.any_eq_true, Bool.and_eq_true,
    Bool.not_eq_true', decide_eq_true_eq]
  constructor
  · rintro ⟨ws, ⟨hws, member, hmember, henabled, hrole⟩, rfl⟩
    obtain ⟨row, hlisted, hrestore⟩ := hrows ws hws
    obtain ⟨-, rfl⟩ := Workspace.restore_eq_ok.1 hrestore
    obtain ⟨key, hrow, -⟩ := mem_rowsOf.1 hlisted
    exact ⟨key, row, member, hrow, rfl, hmember, henabled, hrole⟩
  · rintro ⟨key, row, member, hrow, rfl, hmember, henabled, hrole⟩
    obtain ⟨ws, hws, hrestore⟩ := hrestored row
      (mem_rowsOf.2 ⟨key, hrow, Table.contains_iff.2 ⟨member, hmember⟩⟩)
    obtain ⟨-, rfl⟩ := Workspace.restore_eq_ok.1 hrestore
    exact ⟨_, ⟨hws, member, hmember, henabled, hrole⟩, rfl⟩

/-- A workspace is listed under a role exactly when the user has this very role in it and is not
disabled there. -/
theorem mem_bucket {t : Tables} (hfiled : t.Filed) {workspaces : List Workspace}
    (hanswer : (Query.workspacesOf .none user).answer t = .ok workspaces) {role : Role}
    {id : WorkspaceId} : id ∈ Operator.bucket user workspaces role ↔
      ∃ member, t.Seats id user member ∧ member.role = role ∧ member.disabled = false := by
  rw [mem_bucket_iff hanswer]
  constructor
  · rintro ⟨key, row, member, hrow, rfl, hmember, henabled, hrole⟩
    rw [← hfiled.workspaces hrow] at hrow
    exact ⟨member, ⟨row, hrow, hmember⟩, hrole, henabled⟩
  · rintro ⟨member, ⟨row, hrow, hmember⟩, hrole, henabled⟩
    exact ⟨id, row, member, hrow, hfiled.workspaces hrow, hmember, henabled, hrole⟩

/-- An operator who has just been looked up acts for the user asked for, and lists only workspaces
that this user owns as those they own. -/
theorem backed_of_operatorFor (hfiled : directory.store.tables.Filed)
    (h : (operatorFor defaultPolicy user).perform moment directory = (.ok operator, directory')) :
    directory' = directory ∧ operator.user = some user ∧
      ∀ id ∈ operator.owning, directory.store.tables.Owns user id := by
  obtain ⟨workspaces, hanswer, rfl, rfl⟩ := perform_operatorFor_eq_ok.1 h
  exact ⟨rfl, rfl, fun id hid => (mem_bucket hfiled hanswer).1 hid⟩

/-- Where every workspace can be restored, the workspaces of every user are given out. -/
theorem exists_answer_workspacesOf {t : Tables} (user : UserId)
    (hrestores : ∀ {id ws}, t.workspaces.get? id = some ws → ∃ restored, ws.restore = .ok restored) :
    ∃ workspaces, (Query.workspacesOf .none user).answer t = .ok workspaces :=
  exists_answer_workspacesOf_iff.2 fun _ _ hrow _ => Workspace.exists_restore_iff.1 (hrestores hrow)

/-- In sound tables every operator can be looked up. -/
theorem exists_operatorFor (defaultPolicy : Option PolicyId) (user : UserId)
    (moment : Moment) {directory : Directory} (hsound : directory.store.tables.Sound) :
    ∃ operator, (operatorFor defaultPolicy user).perform moment directory =
      (.ok operator, directory) :=
  have ⟨workspaces, hanswer⟩ := exists_answer_workspacesOf user hsound.restorable
  ⟨_, perform_operatorFor_eq_ok.2 ⟨workspaces, hanswer, rfl, rfl⟩⟩

end Accounts

/-! ## Runs -/

/-- An operation asked for at some moment by a user whose operator is looked up just before. -/
structure Request where
  moment : Moment
  defaultPolicy : Option PolicyId
  user : UserId
  operation : Operation

/-- What a request returns and the store it leaves behind. -/
def Request.perform (request : Request) (store : Store) : Except Error Operator × Store :=
  match (Accounts.operatorFor request.defaultPolicy request.user).perform request.moment
      { store } with
  | (.ok operator, directory) =>
    Call.perform
      { moment := request.moment
        defaultPolicy := request.defaultPolicy
        operator
        operation := request.operation }
      directory.store
  | (.error error, directory) => (.error error, directory.store)

/-- The store after some requests, the first one first. -/
def Store.serve (store : Store) (requests : List Request) : Store :=
  requests.foldl (fun store request => (request.perform store).2) store

/-- A request keeps the tables sound and leaves an owner in every workspace. -/
theorem Request.perform_spec (request : Request) {store : Store} (hsound : store.tables.Sound)
    (howned : store.tables.Owned) :
    (request.perform store).2.tables.Sound ∧ (request.perform store).2.tables.Owned := by
  obtain ⟨operator, hlookup⟩ :
      ∃ operator, (Accounts.operatorFor request.defaultPolicy request.user).perform request.moment
        { store } = (.ok operator, { store }) :=
    Accounts.exists_operatorFor _ _ _ hsound
  obtain ⟨-, hactor, hbacked⟩ := Accounts.backed_of_operatorFor hsound.filed hlookup
  rw [Request.perform, hlookup]
  refine ⟨hsound.of_call _, howned.of_call _ hsound.filed fun {user} huser => ?_⟩
  obtain rfl : user = request.user := Option.some.inj (huser.symm.trans hactor)
  exact hbacked

/-- Sound tables that have all their owners keep them along every run of requests. -/
theorem Store.owned_serve_of_sound {store : Store} (hsound : store.tables.Sound)
    (howned : store.tables.Owned) (requests : List Request) :
    (store.serve requests).tables.Owned := by
  induction requests generalizing store with
  | nil => exact howned
  | cons request requests ih =>
    obtain ⟨hsound, howned⟩ := request.perform_spec hsound howned
    exact ih hsound howned

/-- However users use an empty store, each with an operator who has just been looked up, every
workspace has an owner all along. -/
theorem Store.owned_serve (label : Nat) (file : Option String) (attached : Bool)
    (requests : List Request) :
    ((Store.blank label file attached).serve requests).tables.Owned :=
  Store.owned_serve_of_sound (Store.sound_blank label file attached) ⟨nofun⟩ requests

end Roster
