import Roster.Proofs.Manageability

/-!
# What memberships let a user do

An operator is made from the memberships of a user: every workspace in which they are not disabled is
listed once, under the role they have there. Whoever has a role somewhere may do there all that the
roles below it may, so a check of what an operation requires passes exactly when the memberships of
the user say that it should.
-/

namespace Roster

/-- The workspaces that an operator lists under a role. -/
def Operator.listed (operator : Operator) : Role → List WorkspaceId
  | .reader => operator.readable
  | .writer => operator.writable
  | .maintainer => operator.maintainable
  | .owner => operator.owning

/-- A user is a member of a stored workspace, is not disabled there, and may do what a role may. -/
def Tables.Entitles (t : Tables) (id : WorkspaceId) (user : UserId) (role : Role) : Prop :=
  ∃ member, t.Seats id user member ∧ member.disabled = false ∧ member.role.includes role = true

/-- For every role for which workspaces are named, the memberships of a user entitle them to it in one
of these workspaces. -/
def Tables.Satisfies (t : Tables) (user : UserId) (requirements : Requirements) : Prop :=
  ∀ role, requirements.forRole role ≠ [] →
    ∃ id ∈ requirements.forRole role, t.Entitles id user role

instance (t : Tables) (id : WorkspaceId) (user : UserId) (role : Role) :
    Decidable (t.Entitles id user role) :=
  decidable_of_iff
    (((t.workspaces.get? id).bind (·.members.users.get? user)).any fun member =>
      !member.disabled && member.role.includes role)
    (by simp [Tables.Entitles, Tables.Seats, Option.any_eq_true, Option.bind_eq_some_iff])

instance (t : Tables) (user : UserId) (requirements : Requirements) :
    Decidable (t.Satisfies user requirements) :=
  decidable_of_iff
    (∀ role ∈ Role.all, requirements.forRole role ≠ [] →
      ∃ id ∈ requirements.forRole role, t.Entitles id user role)
    ⟨fun h role => h role role.mem_all, fun h role _ => h role⟩

/-! ## Lists without duplicates -/

namespace Accounts

variable {t : Tables} {user : UserId} {workspaces : List Workspace}

/-- No workspace is given out twice. -/
theorem nodup_of_answer_workspacesOf (hfiled : t.Filed)
    (hanswer : (Query.workspacesOf .none user).answer t = .ok workspaces) :
    (workspaces.map Workspace.id).Nodup := by
  have hids := map_of_mapM_eq_ok Workspace.id Workspace.id
    (fun hrestore => by rw [(Workspace.restore_eq_ok.1 hrestore).2])
    (hanswer : List.mapM _ _ = _)
  rw [hids]
  refine List.Nodup.sublist (List.filter_sublist.map _) ?_
  rw [Table.map_values hfiled.workspaces]
  exact t.workspaces.nodup_keys

end Accounts

/-! ## The reach of a role -/

namespace Operator

/-- A role reaches the workspaces that are listed under it or under a role that may do more. -/
theorem mem_reach {operator : Operator} {role : Role} {id : WorkspaceId} :
    id ∈ operator.reach role ↔ ∃ held, held.includes role = true ∧ id ∈ operator.listed held := by
  constructor
  · intro h
    cases role <;>
      simp only [reach, allReadable, allWritable, allMaintaining, allOwning, mem_distinct,
        List.mem_append] at h
    case reader =>
      obtain h | h | h | h := h
      exacts [⟨.reader, rfl, h⟩, ⟨.writer, rfl, h⟩, ⟨.maintainer, rfl, h⟩, ⟨.owner, rfl, h⟩]
    case writer =>
      obtain h | h | h := h
      exacts [⟨.writer, rfl, h⟩, ⟨.maintainer, rfl, h⟩, ⟨.owner, rfl, h⟩]
    case maintainer =>
      obtain h | h := h
      exacts [⟨.maintainer, rfl, h⟩, ⟨.owner, rfl, h⟩]
    case owner => exact ⟨.owner, rfl, h⟩
  · rintro ⟨held, hincludes, hlisted⟩
    simp only [Role.includes, decide_eq_true_eq] at hincludes
    cases role <;> cases held <;>
      simp_all [reach, allReadable, allWritable, allMaintaining, allOwning, listed, Role.rank]

end Operator

/-- A demand for a role is met when one of the workspaces named for it is in reach of the role. -/
theorem Requirements.metFor_iff {requirements : Requirements} {operator : Operator} {role : Role} :
    requirements.metFor operator role = true ↔ (requirements.forRole role ≠ [] →
      ∃ id ∈ requirements.forRole role, id ∈ operator.reach role) := by
  simp only [metFor, Operator.reachesAny, Bool.or_eq_true, List.isEmpty_iff, List.any_eq_true,
    decide_eq_true_eq, ne_eq, ← or_iff_not_imp_left]

namespace Accounts

/-- The operator of a user lists each workspace under the role that the user has in it. -/
theorem mem_listed_ofWorkspaces {t : Tables} (hfiled : t.Filed) {user : UserId}
    {workspaces : List Workspace} {defaultPolicy : Option PolicyId}
    (hanswer : (Query.workspacesOf .none user).answer t = .ok workspaces) {role : Role}
    {id : WorkspaceId} :
    id ∈ (Operator.ofWorkspaces user workspaces defaultPolicy).listed role ↔
      ∃ member, t.Seats id user member ∧ member.role = role ∧ member.disabled = false := by
  rw [← mem_bucket hfiled hanswer]
  cases role <;> rfl

/-- What is in reach of a role for the operator of a user is what their memberships entitle them
to. -/
theorem mem_reach_ofWorkspaces {t : Tables} (hfiled : t.Filed) {user : UserId}
    {workspaces : List Workspace} {defaultPolicy : Option PolicyId}
    (hanswer : (Query.workspacesOf .none user).answer t = .ok workspaces) {role : Role}
    {id : WorkspaceId} :
    id ∈ (Operator.ofWorkspaces user workspaces defaultPolicy).reach role ↔
      t.Entitles id user role := by
  simp only [Operator.mem_reach, mem_listed_ofWorkspaces hfiled hanswer]
  constructor
  · rintro ⟨_, hincludes, member, hseats, rfl, henabled⟩
    exact ⟨member, hseats, henabled, hincludes⟩
  · rintro ⟨member, hseats, henabled, hincludes⟩
    exact ⟨member.role, hincludes, member, hseats, rfl, henabled⟩

/-- Where rows are filed under their own ids and every workspace can be restored, every user has an
operator, and a check of the operator passes exactly when the memberships of the user satisfy what is
required; otherwise the operation is denied. No workspace is listed twice, be it under one role or
under two. -/
theorem check_operatorFor (defaultPolicy : Option PolicyId) (user : UserId) (moment : Moment)
    (directory : Directory) (hfiled : directory.store.tables.Filed)
    (hrestores : ∀ {id ws}, directory.store.tables.workspaces.get? id = some ws →
      ∃ restored, ws.restore = .ok restored) :
    ∃ operator, (operatorFor defaultPolicy user).perform moment directory = (.ok operator, directory) ∧
      (∀ requirements : Requirements, requirements.check (some operator) =
        if directory.store.tables.Satisfies user requirements then .ok ()
        else .error .operationDenied) ∧
      (∀ role, (operator.listed role).Nodup) ∧
      ∀ role other, role ≠ other → (operator.listed role).Disjoint (operator.listed other) := by
  obtain ⟨workspaces, hanswer⟩ := exists_answer_workspacesOf user hrestores
  refine ⟨_, perform_operatorFor_eq_ok.2 ⟨workspaces, hanswer, rfl, rfl⟩, ?_, ?_, ?_⟩
  · intro requirements
    refine if_congr ?_ rfl rfl
    simp only [List.all_eq_true, Requirements.metFor_iff, mem_reach_ofWorkspaces hfiled hanswer]
    exact ⟨fun h role => h role role.mem_all, fun h role _ => h role⟩
  · intro role
    have hbucket : (Operator.bucket user workspaces role).Nodup :=
      (nodup_of_answer_workspacesOf hfiled hanswer).sublist (List.filter_sublist.map _)
    cases role <;> exact hbucket
  · intro role other hne id hrole hother
    obtain ⟨member, ⟨ws, hws, hmember⟩, rfl, -⟩ := (mem_listed_ofWorkspaces hfiled hanswer).1 hrole
    obtain ⟨member', ⟨ws', hws', hmember'⟩, rfl, -⟩ :=
      (mem_listed_ofWorkspaces hfiled hanswer).1 hother
    -- There is one row under the id, and in it one membership of the user.
    obtain rfl := Option.some.inj (hws.symm.trans hws')
    obtain rfl := Option.some.inj (hmember.symm.trans hmember')
    exact hne rfl

/-- Dave is disabled in the team, so he may read one of two workspaces only if his home is among
them; there he may do everything. -/
theorem check_operatorFor_dave :
    ∃ operator, (operatorFor none ⟨"dave"⟩).perform Request.SuspendedTeam.handover.moment
        { store := Request.SuspendedTeam.directory } =
          (.ok operator, { store := Request.SuspendedTeam.directory }) ∧
      Requirements.check { readable := some [⟨"team"⟩], owning := some [] } (some operator) =
        .error .operationDenied ∧
      Requirements.check
        { readable := some [⟨"team"⟩, ⟨"dave-home"⟩], owning := some [⟨"dave-home"⟩] }
        (some operator) = .ok () := by
  have hsound := Request.SuspendedTeam.sound_directory
  obtain ⟨operator, hlookup, hcheck, -, -⟩ := check_operatorFor none ⟨"dave"⟩
    Request.SuspendedTeam.handover.moment { store := Request.SuspendedTeam.directory } hsound.filed
    hsound.restorable
  refine ⟨operator, hlookup, ?_, ?_⟩
  · rw [hcheck, if_neg (by decide)]
  · rw [hcheck, if_pos (by decide)]

end Accounts

end Roster
