import Roster.Proofs.Manageability

/-!
# What an operator can see

Callers read workspaces through a filter, and what they may change is checked before anything is
looked up. So what they are answered depends on the workspaces within their reach alone, and nothing
about the others can be told from it, not even whether they exist.
-/

namespace Roster

/-! ## Tables with some of their rows -/

namespace Table

variable {kind : Entity} {ρ : Type} {visible : Ident kind → Bool} {table table' : Table kind ρ}

/-- The rows whose keys are visible. -/
def restrict (visible : Ident kind → Bool) (table : Table kind ρ) : Table kind ρ :=
  ⟨table.rows.filter fun entry => visible entry.1, table.sorted.filter _⟩

/-- A visible row is there if it was there. -/
theorem get?_restrict (key : Ident kind) :
    (table.restrict visible).get? key = if visible key then table.get? key else none := by
  refine Option.ext fun row => ?_
  rw [get?_eq_some_iff, restrict, List.mem_filter, ← get?_eq_some_iff]
  cases visible key <;> simp

/-- Tables that have the same visible rows are the same as far as they are visible. -/
theorem restrict_congr (h : ∀ key, visible key = true → table.get? key = table'.get? key) :
    table.restrict visible = table'.restrict visible := by
  refine ext_get? fun key => ?_
  rw [get?_restrict, get?_restrict]
  exact ite_congr rfl (h key) fun _ => rfl

/-- Where rows are filed under their own ids, those with visible ids that pass a test are those of
the visible part that pass it. -/
theorem filter_values_restrict {own : ρ → Ident kind}
    (hfiled : ∀ {key row}, table.get? key = some row → own row = key) (test : ρ → Bool) :
    (table.values.filter fun row => test row && visible (own row)) =
      (table.restrict visible).values.filter test := by
  simp only [values, restrict, List.filter_map, List.filter_filter, Function.comp_def]
  refine congrArg _ (List.filter_congr fun entry hentry => ?_)
  rw [hfiled (get?_eq_some_iff.2 hentry)]

end Table

/-- The rows of the workspaces that an operator may read are the same. -/
def Operator.SeesAlike (operator : Operator) (t t' : Tables) : Prop :=
  ∀ id ∈ operator.allReadable, t.workspaces.get? id = t'.workspaces.get? id

/-! ## Reading -/

/-- What is not restricted to be written may be read as far as it is restricted to be. -/
theorem Filter.canRead_ofReadable {ids : List WorkspaceId} {id : WorkspaceId} :
    (Filter.ofReadable ids).canRead id = true ↔ id ∈ ids := by
  simp [canRead, ofReadable]

namespace Query

variable {operator : Operator} {t t' : Tables}

/-- Workspaces asked for by id are answered from the visible rows. -/
theorem answer_workspaces_congr (hsees : operator.SeesAlike t t') (ids : List WorkspaceId) :
    (Query.workspaces (Workspaces.readableFilter operator) ids).answer t =
      (Query.workspaces (Workspaces.readableFilter operator) ids).answer t' := by
  refine congrArg (List.mapM Workspace.restore) (List.filterMap_congr fun id hid => ?_)
  exact hsees id (Filter.canRead_ofReadable.1 (List.mem_filter.1 hid).2)

/-- The workspaces of a user are answered from the visible rows. -/
theorem answer_workspacesOf_congr (hfiled : t.Filed) (hfiled' : t'.Filed)
    (hsees : operator.SeesAlike t t') (member : UserId) :
    (Query.workspacesOf (Workspaces.readableFilter operator) member).answer t =
      (Query.workspacesOf (Workspaces.readableFilter operator) member).answer t' := by
  refine congrArg (List.mapM Workspace.restore) ?_
  have hvisible : t.workspaces.restrict (Workspaces.readableFilter operator).canRead =
      t'.workspaces.restrict (Workspaces.readableFilter operator).canRead :=
    Table.restrict_congr fun id hid => hsees id (Filter.canRead_ofReadable.1 hid)
  rw [Table.filter_values_restrict hfiled.workspaces,
    Table.filter_values_restrict hfiled'.workspaces, hvisible]

end Query

/-- Reading without a transaction, when nothing is required, is answered from the committed
tables. -/
theorem Usecase.perform_run_query {α : Type} {operator : Operator} (query : Query α)
    (moment : Moment) (directory : Directory) :
    (Usecase.run {} (some operator) (.query query)).perform moment directory =
      (query.answer directory.store.tables, directory) := by
  rw [run, Action.perform_bind, Action.perform_ofExcept]
  exact perform_runPlain_query query

namespace Workspaces

variable {operator : Operator} {user : UserId}

/-- Fetching workspaces is answered through the filter of the operator. -/
theorem perform_fetch (huser : operator.user = some user) (ids : List WorkspaceId) (moment : Moment)
    (directory : Directory) :
    (fetch ids operator).perform moment directory =
      ((Query.workspaces (readableFilter operator) ids).answer directory.store.tables,
        directory) := by
  rw [fetch, Action.perform_bind, Action.perform_ofExcept, Operator.actor_eq_ok.2 huser]
  exact Usecase.perform_run_query _ moment directory

/-- Listing the workspaces of a user is answered through the filter of the operator. -/
theorem perform_findByUser (huser : operator.user = some user) (member : UserId) (moment : Moment)
    (directory : Directory) :
    (findByUser member operator).perform moment directory =
      ((Query.workspacesOf (readableFilter operator) member).answer directory.store.tables,
        directory) := by
  rw [findByUser, Action.perform_bind, Action.perform_ofExcept, Operator.actor_eq_ok.2 huser]
  exact Usecase.perform_run_query _ moment directory

/-- A workspace that is fetched by its alias is one that the operator may read. -/
theorem readable_of_fetchByAlias {aliasName : String} {moment : Moment}
    {directory directory' : Directory} {ws : Workspace}
    (h : (fetchByAlias aliasName operator).perform moment directory = (.ok ws, directory')) :
    ws.id ∈ operator.allReadable := by
  simp only [fetchByAlias, Action.perform_bind_eq_ok] at h
  obtain ⟨_, _, -, found, _, -, hrun⟩ := h
  rw [Usecase.run, Action.perform_bind_eq_ok] at hrun
  obtain ⟨_, _, hcheck, hfound⟩ := hrun
  rw [Action.perform_ofExcept, Prod.mk.injEq] at hcheck
  obtain rfl : ws = found := (Except.ok.inj (congrArg Prod.fst hfound)).symm
  exact check_readable.1 hcheck.1

end Workspaces

/-! ## Changing -/

namespace Operation

/-- What an operation on one workspace requires of its caller. -/
def demand? : Operation → Option Requirements
  | updateWorkspace id _ | addUserMember id _ | addIntegrationMember id _ _
  | updateUserMember id _ _ | updateIntegrationMember id _ _ | removeIntegration id _
  | removeIntegrations id _ | transferOwnership id _ | removeWorkspace id =>
    some { owning := some [id] }
  | removeUserMember id _ | removeMultipleUserMembers id _ => some { readable := some [id] }
  | _ => none

/-- What a caller is told who does not meet the demand of an operation: that there are no users, if
the operation needs some and was given none, and otherwise that it is denied. -/
def denial : Operation → Error
  | addUserMember _ [] | removeMultipleUserMembers _ [] => .noSpecifiedUsers
  | _ => .operationDenied

end Operation

namespace Workspaces

variable {operator : Operator} {user : UserId} {requirements : Requirements} {moment : Moment}
  {directory : Directory}

/-- A check that is not passed denies the operation. -/
theorem check_eq_denied (h : requirements.check (some operator) ≠ .ok ()) :
    requirements.check (some operator) = .error .operationDenied := by
  revert h
  simp only [Requirements.check]
  split
  · exact fun h => absurd rfl h
  · exact fun _ => rfl

/-- Changing one workspace is denied before anything is looked up. -/
theorem perform_edit_of_denied (huser : operator.user = some user) {usecase : Usecase}
    (htransactional : usecase.transactional = true)
    (hdenied : usecase.requirements.check (some operator) ≠ .ok ()) (id : WorkspaceId)
    (before : UserId → Except Error Unit)
    (change : UserId → Time.Instant → Workspace → Program Workspace) :
    (edit usecase id operator before change).perform moment directory =
      (.error .operationDenied, directory) := by
  rw [edit, Action.perform_bind, Action.perform_ofExcept, Operator.actor_eq_ok.2 huser]
  simp only [Action.perform_bind, Action.perform_now, Usecase.perform_run htransactional,
    check_eq_denied hdenied]

/-- Adding users is denied before anything is looked up. -/
theorem perform_addUserMember_of_denied (huser : operator.user = some user) {id : WorkspaceId}
    (hdenied : (ownership id).requirements.check (some operator) ≠ .ok ())
    (users : List (UserId × Role)) :
    (addUserMember id users operator).perform moment directory =
      (.error (Operation.addUserMember id users).denial, directory) := by
  rw [addUserMember, Action.perform_bind, Action.perform_ofExcept, Operator.actor_eq_ok.2 huser]
  cases users with
  | nil => rfl
  | cons first rest => exact perform_edit_of_denied huser rfl hdenied id _ _

/-- Taking users out is denied before anything is looked up. -/
theorem perform_removeMultipleUserMembers_of_denied (huser : operator.user = some user)
    {id : WorkspaceId}
    (hdenied : Requirements.check { readable := some [id] } (some operator) ≠ .ok ())
    (members : List UserId) :
    (removeMultipleUserMembers id members operator).perform moment directory =
      (.error (Operation.removeMultipleUserMembers id members).denial, directory) := by
  rw [removeMultipleUserMembers, Action.perform_bind, Action.perform_ofExcept,
    Operator.actor_eq_ok.2 huser]
  cases members with
  | nil => rfl
  | cons first rest => exact perform_edit_of_denied huser rfl hdenied id _ _

/-- Removing a workspace is denied before anything is looked up. -/
theorem perform_remove_of_denied (huser : operator.user = some user) {id : WorkspaceId}
    (hdenied : (ownership id).requirements.check (some operator) ≠ .ok ()) :
    (remove id operator).perform moment directory = (.error .operationDenied, directory) := by
  rw [remove, Action.perform_bind, Action.perform_ofExcept, Operator.actor_eq_ok.2 huser]
  simp only [Usecase.perform_run (rfl : (ownership id).transactional = true),
    check_eq_denied hdenied]

end Workspaces

/-- Whoever does not meet the demand of an operation on a workspace is told so whatever is stored,
and nothing changes. -/
theorem Operation.perform_of_denied {operator : Operator} {user : UserId}
    (huser : operator.user = some user) {operation : Operation} {requirements : Requirements}
    (hdemand : operation.demand? = some requirements)
    (hdenied : requirements.check (some operator) ≠ .ok ()) (defaultPolicy : Option PolicyId)
    (moment : Moment) (directory : Directory) :
    (operation.act defaultPolicy operator).perform moment directory =
      (.error operation.denial, directory) := by
  cases operation with
  | createWorkspace | signup | signupSubject | updateMe | removeMe | createRole | updateRole
  | removeRole | updatePermittable | addWorkspaceRole => exact nomatch hdemand
  | addUserMember id users =>
    obtain rfl := Option.some.inj hdemand
    exact Action.perform_bind_of_error
      (Workspaces.perform_addUserMember_of_denied huser hdenied users)
  | removeUserMember id member =>
    obtain rfl := Option.some.inj hdemand
    exact Action.perform_bind_of_error
      (Workspaces.perform_removeMultipleUserMembers_of_denied huser hdenied [member])
  | removeMultipleUserMembers id members =>
    obtain rfl := Option.some.inj hdemand
    exact Action.perform_bind_of_error
      (Workspaces.perform_removeMultipleUserMembers_of_denied huser hdenied members)
  | removeWorkspace id =>
    obtain rfl := Option.some.inj hdemand
    exact Action.perform_bind_of_error (Workspaces.perform_remove_of_denied huser hdenied)
  | updateWorkspace | addIntegrationMember | updateUserMember | updateIntegrationMember
  | removeIntegration | removeIntegrations | transferOwnership =>
    obtain rfl := Option.some.inj hdemand
    exact Action.perform_bind_of_error (Workspaces.perform_edit_of_denied huser rfl hdenied _ _ _)

/-- Where two directories have the same workspaces within the reach of an operator, whatever else
they hold, fetching workspaces and listing those of a user are answered alike. An operation on a
workspace whose demand the operator does not meet is refused in the same words wherever it is tried,
and changes nothing; and a workspace that is fetched by its alias is within reach. -/
theorem Workspaces.answered_alike {operator : Operator} {user : UserId}
    (huser : operator.user = some user) {directory directory' : Directory}
    (hfiled : directory.store.tables.Filed) (hfiled' : directory'.store.tables.Filed)
    (hsees : operator.SeesAlike directory.store.tables directory'.store.tables)
    (moment moment' : Moment) :
    (∀ ids, ((fetch ids operator).perform moment directory).1 =
      ((fetch ids operator).perform moment' directory').1) ∧
    (∀ member, ((findByUser member operator).perform moment directory).1 =
      ((findByUser member operator).perform moment' directory').1) ∧
    (∀ defaultPolicy (operation : Operation) requirements, operation.demand? = some requirements →
      requirements.check (some operator) ≠ .ok () →
        (operation.act defaultPolicy operator).perform moment directory =
          (.error operation.denial, directory) ∧
        (operation.act defaultPolicy operator).perform moment' directory' =
          (.error operation.denial, directory')) ∧
    ∀ aliasName ws directory₁,
      (fetchByAlias aliasName operator).perform moment directory = (.ok ws, directory₁) →
        ws.id ∈ operator.allReadable := by
  refine ⟨fun ids => ?_, fun member => ?_,
    fun defaultPolicy operation requirements hdemand hdenied => ?_,
    fun aliasName ws directory₁ => readable_of_fetchByAlias⟩
  · rw [perform_fetch huser, perform_fetch huser]
    exact Query.answer_workspaces_congr hsees ids
  · rw [perform_findByUser huser, perform_findByUser huser]
    exact Query.answer_workspacesOf_congr hfiled hfiled' hsees member
  · exact ⟨operation.perform_of_denied huser hdemand hdenied defaultPolicy moment directory,
      operation.perform_of_denied huser hdemand hdenied defaultPolicy moment' directory'⟩

/-! ### A vault that olga does not see -/

namespace Workspaces.Vault

open Request.SuspendedTeam (handover team)

/-- Olga with nothing but the team within her reach. -/
def olga : Operator :=
  { user := some ⟨"olga"⟩, owning := [team.id] }

/-- A personal workspace of nobody, which cannot be restored. -/
def vault : Workspace :=
  Request.SuspendedTeam.workspace "vault" "Vault" { Members.empty with fixed := true }

/-- The directory without the vault. -/
def bare : Directory where
  store := Request.SuspendedTeam.directory

/-- The directory with the vault. -/
def guarded : Directory where
  store := { bare.store with tables := bare.store.tables.fileWorkspace vault }

/-- Asking for the vault and the team gives olga the team, as it would without the vault; taking
herself out of the vault is denied; and by an alias she finds the team or nothing. -/
theorem answered_alike_guarded :
    ((fetch [vault.id, team.id] olga).perform handover.moment guarded).1 = .ok [team] ∧
    ((Operation.removeUserMember vault.id ⟨"olga"⟩).act none olga).perform handover.moment guarded =
      (.error .operationDenied, guarded) ∧
    ∀ aliasName ws directory,
      (fetchByAlias aliasName olga).perform handover.moment guarded = (.ok ws, directory) →
        ws.id = team.id := by
  have hsees : olga.SeesAlike guarded.store.tables bare.store.tables := by
    intro id hid
    rw [List.mem_singleton.1 hid]
    rfl
  obtain ⟨hfetch, -, hdenied, halias⟩ :=
    @answered_alike olga ⟨"olga"⟩ rfl guarded bare (by decide) (by decide) hsees handover.moment
      handover.moment
  refine ⟨(hfetch _).trans rfl, ?_, fun aliasName ws directory h => ?_⟩
  · exact (hdenied none (.removeUserMember vault.id ⟨"olga"⟩) _ rfl (by decide)).1
  · exact List.mem_singleton.1 (halias aliasName ws directory h)

end Workspaces.Vault

end Roster
