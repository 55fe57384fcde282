import Roster.Proofs.Authority
import Roster.Proofs.Reach

/-!
# The operator of a founder

Whoever founds a workspace for themselves keeps the operator they came with: the new workspace is only
counted among those they own. The operator made anew from the memberships that are stored afterwards
lists the workspaces in another order and may list them elsewhere, but every role reaches the same
workspaces, and every check ends the same way.
-/

namespace Roster

/-! ## Operators that mirror memberships -/

/-- An operator acts for a user, and a role reaches the workspaces where the memberships of the user
entitle them to it. -/
structure Operator.Mirrors (operator : Operator) (t : Tables) (user : UserId) : Prop where
  acts : operator.user = some user
  reaches : ∀ {role id}, id ∈ operator.reach role ↔ t.Entitles id user role

namespace Operator

variable {operator other : Operator} {t : Tables} {user : UserId}

/-- A role reaches no workspace twice. -/
theorem nodup_reach (operator : Operator) (role : Role) : (operator.reach role).Nodup := by
  cases role <;> exact nodup_distinct _

/-- One more workspace that is owned is listed under that role, and nothing else changes. -/
theorem mem_listed_addNewWorkspace {held : Role} {added id : WorkspaceId} :
    id ∈ (operator.addNewWorkspace added).listed held ↔
      (held = .owner ∧ id = added) ∨ id ∈ operator.listed held := by
  cases held
  case owner => exact mem_owning_addNewWorkspace.trans (by simp [listed])
  all_goals
    unfold addNewWorkspace
    split <;> simp [listed]

/-- One more workspace that is owned is in reach of every role, and nothing else changes. -/
theorem mem_reach_addNewWorkspace {role : Role} {added id : WorkspaceId} :
    id ∈ (operator.addNewWorkspace added).reach role ↔ id = added ∨ id ∈ operator.reach role := by
  simp only [mem_reach, mem_listed_addNewWorkspace, and_or_left, exists_or]
  refine or_congr_left ⟨fun ⟨_, _, _, hid⟩ => hid, fun hid => ⟨.owner, ?_, rfl, hid⟩⟩
  cases role <;> rfl

/-- The operator made from the workspaces of a user mirrors their memberships. -/
theorem mirrors_ofWorkspaces (hfiled : t.Filed) {workspaces : List Workspace}
    (defaultPolicy : Option PolicyId)
    (hanswer : (Query.workspacesOf .none user).answer t = .ok workspaces) :
    (ofWorkspaces user workspaces defaultPolicy).Mirrors t user :=
  ⟨rfl, Accounts.mem_reach_ofWorkspaces hfiled hanswer⟩

/-- Operators who mirror the same memberships reach the same workspaces, each of them once. -/
theorem Mirrors.perm (h : operator.Mirrors t user) (hother : other.Mirrors t user) (role : Role) :
    (operator.reach role).Perm (other.reach role) :=
  (List.perm_ext_iff_of_nodup (operator.nodup_reach role) (other.nodup_reach role)).2
    fun _ => h.reaches.trans hother.reaches.symm

/-- Operators who mirror the same memberships pass the same checks. -/
theorem Mirrors.check_eq (h : operator.Mirrors t user) (hother : other.Mirrors t user)
    (requirements : Requirements) :
    requirements.check (some operator) = requirements.check (some other) := by
  have hmet (role : Role) :
      requirements.metFor operator role = requirements.metFor other role := by
    rw [Bool.eq_iff_iff]
    simp only [Requirements.metFor_iff, h.reaches, hother.reaches]
  simp only [Requirements.check, funext hmet]

/-- An operator who mirrors the memberships of a user still does so when a workspace is filed that the
user owns, and is counted as theirs. -/
theorem Mirrors.addNewWorkspace {ws : Workspace} (h : operator.Mirrors t user)
    (hfree : t.workspaces.get? ws.id = none) (hactive : ws.members.Active user) :
    (operator.addNewWorkspace ws.id).Mirrors (t.fileWorkspace ws) user where
  acts := (addNewWorkspace_user ..).trans h.acts
  reaches {role id} := by
    rw [mem_reach_addNewWorkspace, h.reaches]
    constructor
    · rintro (rfl | ⟨held, hseats, hheld⟩)
      · obtain ⟨member, hmember, howner, henabled⟩ := hactive
        refine ⟨member, ⟨ws, Tables.get?_fileWorkspace.2 (.inl ⟨rfl, rfl⟩), hmember⟩, henabled, ?_⟩
        rw [howner]
        cases role <;> rfl
      · exact ⟨held, hseats.fileNew hfree, hheld⟩
    · rintro ⟨held, ⟨row, hrow, hseat⟩, hheld⟩
      obtain ⟨hid, -⟩ | ⟨-, hrow⟩ := Tables.get?_fileWorkspace.1 hrow
      · exact .inl hid.symm
      · exact .inr ⟨held, ⟨row, hrow, hseat⟩, hheld⟩

end Operator

/-! ## Founding a workspace -/

namespace Workspaces

section

variable {directory directory' : Directory} {moment founding : Moment} {user : UserId}
  {defaultPolicy : Option PolicyId} {operator held : Operator} {name aliasName : String}
  {ws : Workspace}

/-- Founding a workspace for oneself keeps an operator in line with what is stored, and what is
stored afterwards may be given out as before. -/
theorem mirrors_of_create (hmirrors : operator.Mirrors directory.store.tables user)
    (hfounds : (create name aliasName user operator).perform founding directory =
      (.ok (ws, held), directory')) :
    held.Mirrors directory'.store.tables user ∧ ws.Restorable ∧
      directory'.store.tables = directory.store.tables.fileWorkspace ws := by
  obtain ⟨_, id, -, rfl, -, -, hfree, hbuild, htables⟩ := create_inversion hfounds
  obtain ⟨-, -, hmembers, -, -⟩ := Workspace.of_build rfl rfl rfl hbuild
  have hactive : ws.members.Active user := hmembers ▸ Members.active_ofOwner ..
  refine ⟨?_, Workspace.restorable_of_build hbuild, htables⟩
  rw [htables]
  exact hmirrors.addNewWorkspace hfree hactive

/-- Where rows are filed under their own ids and every workspace can be given out, a user who comes
with a fresh operator and founds a workspace for themselves holds an operator who is as good as the
one made anew from what is stored afterwards: every role reaches the same workspaces, each of them
once, and every check ends the same way. -/
theorem held_agrees_with_anew (anewPolicy : Option PolicyId) (renewal : Moment)
    (hfiled : directory.store.tables.Filed)
    (hrestores : ∀ {id row}, directory.store.tables.workspaces.get? id = some row →
      ∃ restored, row.restore = .ok restored)
    (hfresh : (Accounts.operatorFor defaultPolicy user).perform moment directory =
      (.ok operator, directory))
    (hfounds : (create name aliasName user operator).perform founding directory =
      (.ok (ws, held), directory')) :
    ∃ anew, (Accounts.operatorFor anewPolicy user).perform renewal directory' =
        (.ok anew, directory') ∧
      held.user = anew.user ∧
      (∀ role, (held.reach role).Perm (anew.reach role)) ∧
      ∀ requirements : Requirements,
        requirements.check (some held) = requirements.check (some anew) := by
  obtain ⟨workspaces, hanswer, rfl, -⟩ := Accounts.perform_operatorFor_eq_ok.1 hfresh
  obtain ⟨hheld, hfit, htables⟩ :=
    mirrors_of_create (Operator.mirrors_ofWorkspaces hfiled defaultPolicy hanswer) hfounds
  have hrestores' {id : WorkspaceId} {row : Workspace}
      (hrow : directory'.store.tables.workspaces.get? id = some row) :
      ∃ restored, row.restore = .ok restored := by
    rw [htables] at hrow
    obtain ⟨-, rfl⟩ | ⟨-, hrow⟩ := Tables.get?_fileWorkspace.1 hrow
    · exact Workspace.exists_restore_iff.2 hfit
    · exact hrestores hrow
  obtain ⟨workspaces', hanswer'⟩ := Accounts.exists_answer_workspacesOf user hrestores'
  have hfiled' : directory'.store.tables.Filed := htables ▸ hfiled.fileWorkspace ws
  have hanew := Operator.mirrors_ofWorkspaces hfiled' anewPolicy hanswer'
  exact ⟨_, Accounts.perform_operatorFor_eq_ok.2 ⟨workspaces', hanswer', rfl, rfl⟩,
    hheld.acts.trans hanew.acts.symm, hheld.perm hanew, hheld.check_eq hanew⟩

end

/-! ### A lab next to a team -/

namespace Lab

open Request.SuspendedTeam (sound_directory)

/-- A moment at which the next id is that of the lab. -/
def moment : Moment :=
  { Moment.epoch with ids := fun _ => "lab" }

/-- The directory of the team. -/
def directory : Directory where
  store := Request.SuspendedTeam.directory

/-- Olga as she comes: she owns her home and the team. -/
def olga : Operator where
  user := some ⟨"olga"⟩
  owning := [⟨"olga-home"⟩, ⟨"team"⟩]

/-- The lab of olga. -/
def lab : Workspace :=
  { Request.SuspendedTeam.workspace "lab" "Lab" (.ofOwner ⟨"olga"⟩ false) with aliasName := "lab" }

/-- The directory in which olga has founded the lab. -/
def founded : Directory :=
  ((create "Lab" "lab" ⟨"olga"⟩ olga).perform moment directory).2

/-- Olga founds a lab, which is the last that is listed for the operator she keeps and the first for
the one made anew; both pass the same checks. -/
theorem held_agrees_with_anew_olga : ∃ held anew,
    (create "Lab" "lab" ⟨"olga"⟩ olga).perform moment directory = (.ok (lab, held), founded) ∧
    (Accounts.operatorFor none ⟨"olga"⟩).perform moment founded = (.ok anew, founded) ∧
    held.owning = [⟨"olga-home"⟩, ⟨"team"⟩, ⟨"lab"⟩] ∧
    anew.owning = [⟨"lab"⟩, ⟨"olga-home"⟩, ⟨"team"⟩] ∧
    (∀ role, (held.reach role).Perm (anew.reach role)) ∧
    ∀ requirements : Requirements,
      requirements.check (some held) = requirements.check (some anew) := by
  have hfresh : (Accounts.operatorFor none ⟨"olga"⟩).perform moment directory =
      (.ok olga, directory) := rfl
  have hfounds : (create "Lab" "lab" ⟨"olga"⟩ olga).perform moment directory =
      (.ok (lab, olga.addNewWorkspace ⟨"lab"⟩), founded) := rfl
  obtain ⟨anew, hanew, -, hreach, hchecks⟩ := held_agrees_with_anew none moment
    sound_directory.filed sound_directory.restorable hfresh hfounds
  refine ⟨_, anew, hfounds, hanew, rfl, ?_, hreach, hchecks⟩
  obtain rfl := ok_eq_ok_comm.1 (congrArg Prod.fst hanew)
  rfl

end Lab

end Workspaces

end Roster
