import Mathlib.Data.List.Nodup
import Roster.Proofs.Outcomes
import Roster.Proofs.Rows
import Roster.Workspace

/-!
# What changes to members come to

A change to the members of a workspace succeeds exactly under a condition of its own, and then it
is known row by row. Changes to the integrations leave the users alone.
-/

namespace Roster

/-! ## Members -/

namespace Members

variable {members members' : Members} {user : UserId} {role : Role}

/-- A user joins if the users are not fixed and they are not among them. -/
theorem join_eq_ok {role : Option Role} {invitedBy : UserId} :
    members.join user role invitedBy = .ok members' ↔
      members.fixed = false ∧ members.users.get? user = none ∧
        members' = { members with
          users := members.users.insert user (.new (role.getD .reader) invitedBy) } := by
  unfold join
  cases hfixed : members.fixed <;> cases huser : members.users.contains user <;>
    simp [← Table.contains_eq_false_iff, huser]

/-- A user leaves if the users are not fixed and they are among them. -/
theorem leave_eq_ok :
    members.leave user = .ok members' ↔
      members.fixed = false ∧ members.users.contains user = true ∧
        members' = { members with users := members.users.erase user } := by
  unfold leave
  cases hfixed : members.fixed <;> cases huser : members.users.contains user <;>
    simp

/-- A user gets another role if the users are not fixed and they are among them. -/
theorem updateUserRole_eq_ok :
    members.updateUserRole user role = .ok members' ↔
      members.fixed = false ∧ ∃ member, members.users.get? user = some member ∧
        members' = { members with users := members.users.insert user { member with role } } := by
  unfold updateUserRole
  cases hfixed : members.fixed <;> cases huser : members.users.get? user <;> simp

/-- An integration is installed if it is not among the integrations. -/
theorem addIntegration_eq_ok {integration : IntegrationId} {role : Option Role} {invitedBy : UserId} :
    members.addIntegration integration role invitedBy = .ok members' ↔
      members.integrations.get? integration = none ∧
        members' = { members with
          integrations :=
            members.integrations.insert integration (.new (role.getD .reader) invitedBy) } := by
  unfold addIntegration
  cases hthere : members.integrations.contains integration <;>
    simp [← Table.contains_eq_false_iff, hthere]

/-- An integration gets another role if it is among the integrations. -/
theorem updateIntegrationRole_eq_ok {integration : IntegrationId} :
    members.updateIntegrationRole integration role = .ok members' ↔
      ∃ member, members.integrations.get? integration = some member ∧
        members' = { members with
          integrations := members.integrations.insert integration { member with role } } := by
  unfold updateIntegrationRole
  cases members.integrations.get? integration <;> simp

/-- Two sets of members have the same users, fixed or not. -/
def SameUsers (members members' : Members) : Prop :=
  members'.users = members.users ∧ members'.fixed = members.fixed

/-- An integration is installed next to the users. -/
theorem sameUsers_of_addIntegration {integration : IntegrationId} {role : Option Role}
    {invitedBy : UserId} (h : members.addIntegration integration role invitedBy = .ok members') :
    members.SameUsers members' := by
  obtain ⟨-, rfl⟩ := addIntegration_eq_ok.1 h
  exact ⟨rfl, rfl⟩

/-- An integration is taken out from next to the users. -/
theorem sameUsers_of_deleteIntegration {integration : IntegrationId}
    (h : members.deleteIntegration integration = .ok members') : members.SameUsers members' := by
  unfold deleteIntegration at h
  split at h
  · simp at h
  · obtain rfl := pure_eq_ok.1 h
    exact ⟨rfl, rfl⟩

/-- Integrations are taken out from next to the users. -/
theorem sameUsers_of_deleteIntegrations {integrations : List IntegrationId}
    (h : members.deleteIntegrations integrations = .ok members') :
    members.SameUsers members' := by
  unfold deleteIntegrations at h
  dsimp only at h
  split at h
  · simp at h
  · obtain rfl := pure_eq_ok.1 h
    exact ⟨rfl, rfl⟩

/-- The roles of integrations are no matter of the users. -/
theorem sameUsers_of_updateIntegrationRole {integration : IntegrationId}
    (h : members.updateIntegrationRole integration role = .ok members') :
    members.SameUsers members' := by
  obtain ⟨member, -, rfl⟩ := updateIntegrationRole_eq_ok.1 h
  exact ⟨rfl, rfl⟩

/-- The users with a role are those who are filed with it. -/
theorem mem_usersByRole : user ∈ members.usersByRole role ↔
    ∃ member, members.users.get? user = some member ∧ member.role = role := by
  simp [usersByRole, Table.get?_eq_some_iff]

/-- No user is listed twice under a role. -/
theorem nodup_usersByRole (members : Members) (role : Role) : (members.usersByRole role).Nodup := by
  rw [usersByRole, List.nodup_reverse, List.Nodup, List.pairwise_map]
  refine (members.users.sorted.filter _).imp fun hlt heq => ?_
  rw [heq] at hlt
  exact Ident.lt_irrefl _ hlt

/-- Owners remain when a user goes who is not the only owner. -/
theorem exists_other_owner (hother : members.isOnlyOwner user = false)
    (howner : members.usersByRole .owner ≠ []) :
    ∃ owner, owner ∈ members.usersByRole .owner ∧ owner ≠ user := by
  have hnodup := members.nodup_usersByRole .owner
  have hlist : members.usersByRole .owner ≠ [user] := by simpa [isOnlyOwner] using hother
  match howners : members.usersByRole .owner with
  | [] => exact absurd howners howner
  | [owner] =>
    refine ⟨owner, List.mem_singleton_self owner, ?_⟩
    rintro rfl
    exact hlist howners
  | first :: second :: rest =>
    rw [howners] at hnodup
    by_cases hfirst : first = user
    · refine ⟨second, by simp, ?_⟩
      rintro rfl
      simp [hfirst] at hnodup
    · exact ⟨first, by simp, hfirst⟩

/-- A personal workspace has one user, who owns it. -/
theorem soleOwner_iff : Workspace.soleOwner members = true ↔
    ∃ user member, members.users.rows = [(user, member)] ∧ member.role = .owner := by
  simp only [Workspace.soleOwner, Bool.and_eq_true, decide_eq_true_eq]
  simp only [count, Table.size, usersByRole, List.length_eq_one_iff]
  constructor
  · rintro ⟨⟨⟨user, member⟩, hrows⟩, howners⟩
    refine ⟨user, member, hrows, ?_⟩
    by_contra hrole
    simp [hrows, hrole] at howners
  · rintro ⟨user, member, hrows, hrole⟩
    simp [hrows, hrole]

end Members

/-! ## Workspaces -/

namespace Workspace

variable {ws ws' : Workspace} {now : Time.Instant} {user : UserId}

/-- The members of a workspace change as they allow, and with them only the time. -/
theorem changeMembers_eq_ok {change : Members → Except Error Members} :
    ws.changeMembers now change = .ok ws' ↔
      ∃ members, change ws.members = .ok members ∧ ws' = { ws with members, updatedAt := now } := by
  simp [changeMembers]

/-- A stored workspace is fit to be given out: it has an id and, if it is personal, a sole owner. -/
def Restorable (ws : Workspace) : Prop :=
  ws.id.text.isEmpty = false ∧ (ws.isPersonal = true → soleOwner ws.members = true)

/-- A workspace is restored if it is fit for it, and only its name may lose something. -/
theorem restore_eq_ok :
    ws.restore = .ok ws' ↔ ws.Restorable ∧ ws' = { ws with name := titled ws.name } := by
  unfold restore Restorable
  cases ws.id.text.isEmpty <;> cases ws.isPersonal <;> cases soleOwner ws.members <;> simp

/-- A workspace that has been restored may be restored again. -/
theorem restorable_of_restore (h : ws.restore = .ok ws') : ws'.Restorable := by
  obtain ⟨hfit, hws'⟩ := restore_eq_ok.1 h
  have hid : ws'.id = ws.id := by rw [hws']
  have hmembers : ws'.members = ws.members := by rw [hws']
  rwa [Restorable, isPersonal, hid, hmembers]

/-- A workspace is fit to be given out when it can be restored. -/
theorem exists_restore_iff : (∃ restored, ws.restore = .ok restored) ↔ ws.Restorable := by
  simp only [restore_eq_ok, exists_and_left, exists_eq, and_true]

/-- Workspaces with the same id and the same users are fit together. -/
theorem Restorable.of_sameUsers (h : ws.Restorable) (hid : ws'.id = ws.id)
    (husers : ws.members.SameUsers ws'.members) : ws'.Restorable := by
  unfold Restorable isPersonal soleOwner Members.count Members.usersByRole at *
  rw [hid, husers.1, husers.2]
  exact h

/-- A plan is built when it has an id and members who, if it is personal, are a sole owner; what
else it says is taken over, but for a name that loses its blank ends. -/
theorem build_eq_ok {plan : Plan} :
    plan.build now = .ok ws ↔ ∃ id members, plan.id = some id ∧ id.text.isEmpty = false ∧
      plan.chosenMembers = .ok members ∧ (plan.personal = true → soleOwner members = true) ∧
      ws = {
        id
        name := titled (plan.name.getD "")
        aliasName := plan.aliasName
        email := plan.email
        profile := plan.profile
        members
        policy := plan.policy
        updatedAt := plan.updatedAt.getD now } := by
  unfold Plan.build
  cases plan.id with
  | none => simp
  | some id =>
    cases hid : id.text.isEmpty <;> cases plan.chosenMembers with
    | error error => simp [hid, bind, Except.bind]
    | ok members =>
      cases plan.personal <;> cases hsole : soleOwner members <;>
        simp [hid, hsole, -String.isEmpty_eq_false_iff] <;> exact eq_comm

/-- The users of a workspace that is built are fixed if it is personal. -/
theorem fixed_of_chosenMembers {plan : Plan} {members : Members}
    (h : plan.chosenMembers = .ok members) : members.fixed = plan.personal := by
  unfold Plan.chosenMembers at h
  split at h
  · exact congrArg Members.fixed (Except.ok.inj h).symm
  · exact congrArg Members.fixed (Except.ok.inj h).symm
  · split at h
    · exact nomatch h
    · rename_i hteam
      rw [Bool.eq_false_iff.2 hteam]
      exact congrArg Members.fixed (Except.ok.inj h).symm

/-- A workspace that is built is fit to be given out. -/
theorem restorable_of_build {plan : Plan} (h : plan.build now = .ok ws) : ws.Restorable := by
  obtain ⟨id, members, -, hempty, hmembers, hsole, rfl⟩ := build_eq_ok.1 h
  exact ⟨hempty, fun hpersonal => hsole ((fixed_of_chosenMembers hmembers).symm.trans hpersonal)⟩

/-- A workspace that is built for an owner has the id of the plan and only this owner. -/
theorem of_build {plan : Plan} {id : WorkspaceId} {owner : UserId} (hid : plan.id = some id)
    (hmembers : plan.members = none) (howner : plan.owner = some owner)
    (h : plan.build now = .ok ws) :
    ws.id = id ∧ id.text.isEmpty = false ∧ ws.members = .ofOwner owner plan.personal ∧
      ws.name = titled (plan.name.getD "") ∧ ws.aliasName = plan.aliasName := by
  obtain ⟨id', members, hid', hempty, hchosen, -, hws⟩ := build_eq_ok.1 h
  obtain rfl := Option.some.inj (hid.symm.trans hid')
  rw [Plan.chosenMembers, hmembers, howner] at hchosen
  obtain rfl := Except.ok.inj hchosen
  exact ⟨by rw [hws], hempty, by rw [hws], by rw [hws], by rw [hws]⟩

end Workspace

end Roster
