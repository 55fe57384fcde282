import Roster.Proofs.Regroupings

/-!
# Integrations that are taken out

Integrations are taken out of a workspace all together or not at all: they are when all of them are
installed, and otherwise it is said which of them are not. To take out several is to take out each
of them, in any order.
-/

namespace Roster

open Time (Instant)

/-- The elements of a list are kept in the order in which they first occur. -/
theorem pairwise_distinct {α : Type} [DecidableEq α] (as : List α) :
    (distinct as).Pairwise fun a b => as.idxOf a < as.idxOf b := by
  induction as with
  | nil => exact .nil
  | cons first rest ih =>
    -- Whatever else is kept comes after the first element, and in the order of the rest.
    have hlater {a : α} (ha : a ∈ (distinct rest).filter (· ≠ first)) :
        (first :: rest).idxOf a = rest.idxOf a + 1 :=
      List.idxOf_cons_ne rest (Ne.symm (of_decide_eq_true (List.mem_filter.1 ha).2))
    refine List.pairwise_cons.2 ⟨fun a ha => ?_, (ih.filter _).imp_of_mem fun ha hb hlt => ?_⟩
    · rw [hlater ha, List.idxOf_cons_self]
      exact Nat.succ_pos _
    · rw [hlater ha, hlater hb]
      exact Nat.succ_lt_succ hlt

/-! ## Members without some integrations -/

namespace Members

variable {members members' : Members} {integration : IntegrationId}
  {leaving leaving' : List IntegrationId}

/-- The members without some integrations. -/
def uninstalling (leaving : List IntegrationId) (members : Members) : Members :=
  { members with integrations := leaving.foldl Table.erase members.integrations }

/-- What is taken out is gone, and the other integrations stay. -/
theorem get?_uninstalling (leaving : List IntegrationId) (members : Members)
    (integration : IntegrationId) :
    (members.uninstalling leaving).integrations.get? integration =
      if integration ∈ leaving then none else members.integrations.get? integration :=
  Table.get?_foldl_erase leaving members.integrations integration

/-- Some integrations have been taken out, and everything else is as before. -/
structure Uninstalled (leaving : List IntegrationId) (members members' : Members) : Prop where
  integrations : ∀ integration, members'.integrations.get? integration =
    if integration ∈ leaving then none else members.integrations.get? integration
  users : members'.users = members.users
  fixed : members'.fixed = members.fixed

/-- This is what has happened to the members who are left without some integrations. -/
theorem uninstalled_uninstalling (leaving : List IntegrationId) (members : Members) :
    members.Uninstalled leaving (members.uninstalling leaving) where
  integrations := get?_uninstalling leaving members
  users := rfl
  fixed := rfl

/-- It only matters which integrations are listed. -/
theorem uninstalling_congr (hsame : ∀ integration, integration ∈ leaving' ↔ integration ∈ leaving) :
    members.uninstalling leaving' = members.uninstalling leaving := by
  have hintegrations : (members.uninstalling leaving').integrations =
      (members.uninstalling leaving).integrations := by
    apply Table.ext_get?
    intro integration
    simp only [get?_uninstalling, hsame]
  exact congrArg (fun integrations => { members with integrations }) hintegrations

/-- All of some integrations are installed. -/
def Installs (members : Members) (leaving : List IntegrationId) : Prop :=
  ∀ integration ∈ leaving, members.integrations.contains integration = true

/-- An integration is taken out if it is installed. -/
theorem deleteIntegration_eq_ok :
    members.deleteIntegration integration = .ok members' ↔
      members.integrations.contains integration = true ∧
        members' = members.uninstalling [integration] := by
  unfold deleteIntegration
  cases members.integrations.contains integration <;> simp [uninstalling]

/-- Integrations are taken out one after the other if all of them are installed. -/
theorem foldlM_deleteIntegration_eq_ok (honce : leaving.Nodup) :
    leaving.foldlM (fun members integration => members.deleteIntegration integration) members =
        .ok members' ↔
      members.Installs leaving ∧ members' = members.uninstalling leaving := by
  induction leaving generalizing members with
  | nil =>
    rw [List.foldlM_nil, pure_eq_ok]
    exact (and_iff_right nofun).symm
  | cons first rest ih =>
    obtain ⟨hfirst, hrest⟩ := List.nodup_cons.1 honce
    have hothers : (members.uninstalling [first]).Installs rest ↔ members.Installs rest := by
      refine forall₂_congr fun integration hmem => ?_
      refine (Table.contains_erase ..).trans (and_iff_right ?_)
      rintro rfl
      exact hfirst hmem
    rw [List.foldlM_cons, bind_eq_ok]
    simp only [deleteIntegration_eq_ok, ih hrest]
    constructor
    · rintro ⟨_, ⟨hinstalled, rfl⟩, hall, rfl⟩
      exact ⟨List.forall_mem_cons.2 ⟨hinstalled, hothers.1 hall⟩, rfl⟩
    · rintro ⟨hall, rfl⟩
      obtain ⟨hinstalled, hall⟩ := List.forall_mem_cons.1 hall
      exact ⟨_, ⟨hinstalled, rfl⟩, hothers.2 hall, rfl⟩

/-- Of some integrations, those that are not installed, each listed where it first occurs. -/
def missing (leaving : List IntegrationId) (members : Members) : List IntegrationId :=
  (distinct leaving).filter fun integration => !members.integrations.contains integration

/-- What is missing has been listed and is not installed. -/
theorem mem_missing : integration ∈ members.missing leaving ↔
    integration ∈ leaving ∧ members.integrations.contains integration = false := by
  rw [missing, List.mem_filter, mem_distinct, Bool.not_eq_true']

/-- Nothing is missing exactly when everything is installed. -/
theorem missing_eq_nil_iff : members.missing leaving = [] ↔ members.Installs leaving := by
  simp only [List.eq_nil_iff_forall_not_mem, mem_missing, not_and, Bool.not_eq_false, Installs]

/-- Integrations are taken out together if all of them are installed. -/
theorem deleteIntegrations_eq_ok :
    members.deleteIntegrations leaving = .ok members' ↔
      members.Installs leaving ∧ members' = members.uninstalling leaving := by
  have hsame : members.uninstalling (distinct leaving) = members.uninstalling leaving :=
    uninstalling_congr fun _ => mem_distinct
  rw [← missing_eq_nil_iff, ← List.isEmpty_iff, ← hsame]
  unfold deleteIntegrations missing uninstalling
  dsimp only
  cases ((distinct leaving).filter fun id => !members.integrations.contains id).isEmpty <;> simp

/-- If any of the integrations are missing, this is said and nothing is taken out. -/
theorem deleteIntegrations_of_missing (hmissing : members.missing leaving ≠ []) :
    members.deleteIntegrations leaving =
      .error (.integrationsNotInWorkspace (members.missing leaving)) := by
  have hsome : (members.missing leaving).isEmpty = false :=
    Bool.eq_false_iff.2 (mt List.isEmpty_iff.1 hmissing)
  unfold missing at hsome
  simp only [deleteIntegrations, hsome]
  rfl

end Members

namespace Workspaces

variable {operator : Operator} {id : WorkspaceId} {user : UserId} {moment : Moment}

/-- To take out an integration gives a workspace other members. -/
theorem regroups_removeIntegration (huser : operator.user = some user)
    (howning : id ∈ operator.owning) (users : Table .user User) (integration : IntegrationId) :
    Regroups operator users id (·.deleteIntegration integration)
      (removeIntegration id integration operator) :=
  regroups_changeMembers huser howning fun _ => (·.deleteIntegration integration)

/-- To take out several integrations gives a workspace other members. -/
theorem regroups_removeIntegrations (huser : operator.user = some user)
    (howning : id ∈ operator.owning) (users : Table .user User) (leaving : List IntegrationId) :
    Regroups operator users id (·.deleteIntegrations leaving)
      (removeIntegrations id leaving operator) :=
  regroups_changeMembers huser howning fun _ => (·.deleteIntegrations leaving)

/-- Where rows are filed under their own ids and the snapshot can always be written, an owner of a
stored workspace that can be restored takes integrations out of it exactly when all of them are
installed there. Then nothing else is touched; and if there were any, to take each of them out by a
call of its own, in any order, comes to the same but for the time of the last change. Otherwise
nothing happens at all, and the error lists those that are not installed, each once and in the order
in which they first occur. -/
theorem uninstalls_iff (directory : Directory) (hfiled : directory.store.tables.Filed)
    (huser : operator.user = some user) (howning : id ∈ operator.owning) {row : Workspace}
    (hrow : directory.store.tables.workspaces.get? id = some row)
    (hrestores : ∃ restored, row.restore = .ok restored)
    (hwritable : directory.store.Writable moment) (leaving : List IntegrationId) :
    let outcome := (removeIntegrations id leaving operator).perform moment directory
    ((∃ ws directory', outcome = (.ok ws, directory')) ↔
      ∀ integration ∈ leaving, row.members.integrations.contains integration = true) ∧
    (∀ ws directory', outcome = (.ok ws, directory') →
      directory'.store.tables.workspaces.get? id = some ws ∧
        directory.store.tables.Restaffed operator moment.now row
          (row.members.Uninstalled leaving) directory'.store.tables ∧
        ∀ steps : List (Moment × IntegrationId), leaving ≠ [] → (steps.map Prod.snd).Nodup →
          (∀ integration, integration ∈ steps.map Prod.snd ↔ integration ∈ leaving) →
          (∀ step ∈ steps, directory.store.Writable step.1) →
            ∃ directory'', Action.inTurn (removeIntegration id · operator) steps directory =
                .ok directory'' ∧
              directory'.store.tables.AlikeButStamp id directory''.store.tables) ∧
    ((∃ integration ∈ leaving, row.members.integrations.contains integration = false) →
      ∃ missing, outcome = (.error (.integrationsNotInWorkspace missing), directory) ∧
        missing.Nodup ∧
        (∀ integration, integration ∈ missing ↔ integration ∈ leaving ∧
          row.members.integrations.contains integration = false) ∧
        missing.Pairwise fun a b => leaving.idxOf a < leaving.idxOf b) := by
  intro outcome
  have hfit := Workspace.exists_restore_iff.1 hrestores
  have hown := hfiled.workspaces hrow
  have hregroups := regroups_removeIntegrations huser howning directory.store.tables.users leaving
  refine ⟨?_, ?_, ?_⟩
  · rw [hregroups.exists_ok_iff hfiled hrow hfit hwritable]
    simp only [Members.deleteIntegrations_eq_ok, exists_and_left, exists_eq, and_true,
      Members.Installs]
  · intro ws directory' hok
    obtain ⟨members, hmembers, rfl, rfl⟩ :=
      (hregroups.perform_eq_ok hfiled hrow hfit hwritable).1 hok
    obtain ⟨hinstalls, rfl⟩ := Members.deleteIntegrations_eq_ok.1 hmembers
    refine ⟨hown ▸ Tables.get?_fileWorkspace_withMembers ..,
      Tables.restaffed_fileWorkspace (row.members.uninstalled_uninstalling leaving) .., ?_⟩
    intro steps hsome honce hsame hsteps
    have hsteps_some : steps ≠ [] := by
      obtain ⟨integration, hmem⟩ := List.exists_mem_of_ne_nil leaving hsome
      rintro rfl
      exact nomatch (hsame integration).2 hmem
    obtain ⟨hiff, halike⟩ := hregroups.alike_inTurn hfiled hrow hfit
      (regroups_removeIntegration huser howning directory.store.tables.users)
      (fun hdelete => .inl (Members.sameUsers_of_deleteIntegration hdelete)) hsteps_some hwritable
      hsteps fun members => by
        rw [Members.deleteIntegrations_eq_ok, Members.foldlM_deleteIntegration_eq_ok honce,
          Members.uninstalling_congr hsame]
        simp only [Members.Installs, hsame]
    obtain ⟨directory'', hin⟩ := hiff.1 ⟨_, _, hok⟩
    exact ⟨directory'', hin, halike _ _ _ hok hin⟩
  · rintro ⟨integration, hmem, hfree⟩
    have hmissing := List.ne_nil_of_mem (Members.mem_missing.2 ⟨hmem, hfree⟩)
    have hshows : directory.store.tables.Shows id { row with name := Workspace.titled row.name } :=
      ⟨row, hrow, Workspace.restore_eq_ok.2 ⟨hfit, rfl⟩⟩
    exact ⟨row.members.missing leaving, perform_changeMembers_of_refused huser howning hshows
        (fun _ => (·.deleteIntegrations leaving)) (Members.deleteIntegrations_of_missing hmissing)
        moment,
      (nodup_distinct leaving).filter _, fun _ => Members.mem_missing,
      (pairwise_distinct leaving).filter _⟩

end Workspaces

/-! ### A crew with two integrations -/

namespace Workspaces.Crew

/-- The crew, with a bot and a mirror installed. -/
def automated : Workspace :=
  { crew with
    members :=
      { crew.members with
        integrations := (Table.empty.insert ⟨"bot"⟩ (.new .reader ⟨"olga"⟩)).insert ⟨"mirror"⟩
          (.new .writer ⟨"olga"⟩) } }

/-- Only the crew with its integrations is stored. -/
def workshop : Directory where
  store :=
    { tables := { workspaces := Table.empty.insert crew.id automated }
      file := none
      attached := false }

/-- Olga can take both integrations out, and each of them after the other; and if she lists some
that are not installed, she is told which. -/
theorem uninstalls_automation :
    (∃ ws directory₁ directory₂,
      (removeIntegrations crew.id [⟨"bot"⟩, ⟨"mirror"⟩, ⟨"bot"⟩] olga).perform .epoch workshop =
        (.ok ws, directory₁) ∧
      Action.inTurn (removeIntegration crew.id · olga) [(.epoch, ⟨"mirror"⟩), (later, ⟨"bot"⟩)]
        workshop = .ok directory₂ ∧
      directory₁.store.tables.AlikeButStamp crew.id directory₂.store.tables) ∧
    ∃ missing, (removeIntegrations crew.id [⟨"clock"⟩, ⟨"bot"⟩, ⟨"alarm"⟩, ⟨"clock"⟩] olga).perform
        .epoch workshop = (.error (.integrationsNotInWorkspace missing), workshop) ∧
      (⟨"clock"⟩ ∈ missing ∧ ⟨"bot"⟩ ∉ missing) := by
  have hfiled : workshop.store.tables.Filed := by decide
  have hwritable (moment : Moment) : workshop.store.Writable moment := nofun
  have hrestores : ∃ restored, automated.restore = .ok restored :=
    Workspace.exists_restore_iff.2 ⟨by decide, nofun⟩
  have howning : crew.id ∈ olga.owning := List.mem_singleton_self _
  have hlaws := uninstalls_iff workshop hfiled (rfl : olga.user = _) howning rfl hrestores
    (hwritable .epoch)
  obtain ⟨hiff, hgone, -⟩ := hlaws [⟨"bot"⟩, ⟨"mirror"⟩, ⟨"bot"⟩]
  obtain ⟨-, -, hrefused⟩ := hlaws [⟨"clock"⟩, ⟨"bot"⟩, ⟨"alarm"⟩, ⟨"clock"⟩]
  obtain ⟨ws, directory₁, hok⟩ := hiff.2 (by decide)
  obtain ⟨-, -, hsingly⟩ := hgone ws directory₁ hok
  obtain ⟨directory₂, hin, halike⟩ := hsingly [(.epoch, ⟨"mirror"⟩), (later, ⟨"bot"⟩)] (by decide)
    (by decide) (fun integration => by simp [or_comm]) fun _ _ => hwritable _
  obtain ⟨missing, hmissing, -, hmem, -⟩ := hrefused ⟨⟨"clock"⟩, by decide, by decide⟩
  refine ⟨⟨ws, directory₁, directory₂, hok, hin, halike⟩, missing, hmissing,
    (hmem ⟨"clock"⟩).2 ⟨by decide, by decide⟩, fun hbot => ?_⟩
  exact absurd ((hmem ⟨"bot"⟩).1 hbot).2 (by decide)

end Workspaces.Crew

end Roster
