import Roster.Proofs.Atomicity
import Roster.Proofs.GrantEffects
import Roster.Proofs.Withdrawal

/-!
# What operations come to

One relation says what any operation that succeeds has done to the tables, and which operator its
caller holds afterwards. Everything that holds along runs is proved from this relation, without
looking at the operations again.
-/

namespace Roster

namespace Operation

/-- The workspace that an operation changes and files again, if it takes an owner to do so. -/
def edited? : Operation → Option WorkspaceId
  | updateWorkspace id _ => some id
  | addUserMember id _ => some id
  | addIntegrationMember id _ _ => some id
  | updateUserMember id _ _ => some id
  | updateIntegrationMember id _ _ => some id
  | removeIntegration id _ => some id
  | removeIntegrations id _ => some id
  | transferOwnership id _ => some id
  | _ => none

/-- The workspace that an operation takes users out of, and these users. -/
def leaving? : Operation → Option (WorkspaceId × List UserId)
  | removeUserMember id member => some (id, [member])
  | removeMultipleUserMembers id members => some (id, members)
  | _ => none

/-- How an operation of an owner may change a workspace: the workspace itself but not its members,
its users, the role of someone other than the caller, or its integrations. -/
def Revises (operator : Operator) (t : Tables) (operation : Operation) (user : UserId)
    (ws ws' : Workspace) : Prop :=
  match operation with
  | updateWorkspace _ _ => ws.isPersonal = false ∧ ws'.members = ws.members
  | addUserMember _ users =>
    ws.members.Joined (users.map Prod.fst) ws'.members ∧
      ∀ user ∈ users.map Prod.fst, t.users.contains user = true
  | updateUserMember _ member role =>
    member ≠ user ∧ role ≠ .owner ∧ ws.members.Reseated member role ws'.members
  | transferOwnership _ newOwner =>
    newOwner ≠ user ∧ ∃ between, ws.members.Reseated newOwner .owner between ∧
      between.Reseated user .maintainer ws'.members
  | _ => ws.members.SameUsers ws'.members ∧ ws.Settled operator ws'

/-- What an operation that succeeds has done to the tables, and the operator its caller holds
afterwards. -/
inductive Effect (operator : Operator) (t : Tables) : Operation → Operator → Tables → Prop
  | createWorkspace {name aliasName : String} {firstUser : UserId} {id : WorkspaceId} {t' : Tables}
    (h : Opening operator firstUser t id t') :
    Effect operator t (.createWorkspace name aliasName firstUser) (operator.addNewWorkspace id) t'
  | edit {operation : Operation} {id : WorkspaceId} {t' : Tables} (hid : operation.edited? = some id)
    (h : OwnerEdit operator id (operation.Revises operator t) t t') :
    Effect operator t operation operator t'
  | leave {operation : Operation} {id : WorkspaceId} {leaving : List UserId} {t' : Tables}
    (hleaving : operation.leaving? = some (id, leaving)) (h : Departure operator id leaving t t') :
    Effect operator t operation operator t'
  | removeWorkspace {id : WorkspaceId} {t' : Tables} (h : Closure operator id t t') :
    Effect operator t (.removeWorkspace id) operator t'
  | signup {request : Signup} {t' : Tables} (h : Arrival t t') :
    Effect operator t (.signup request) operator t'
  | signupNewSubject {subject email name : String} {t' : Tables} (h : Arrival t t') :
    Effect operator t (.signupSubject subject email name) operator t'
  | signupKnownSubject {subject email name : String} :
    Effect operator t (.signupSubject subject email name) operator t
  | updateMe {change : UserChange} {t' : Tables} (h : SelfChange operator t t') :
    Effect operator t (.updateMe change) operator t'
  | removeMe {t' : Tables} (h : Withdrawal operator t t') : Effect operator t .removeMe operator t'
  | createRole {name : String} {t' : Tables} (h : RoleFiling t t') :
    Effect operator t (.createRole name) operator t'
  | updateRole {id : RoleId} {name : String} {t' : Tables} (h : RoleFiling t t') :
    Effect operator t (.updateRole id name) operator t'
  | removeRole {id : RoleId} {t' : Tables} (h : RoleRemoval id t t') :
    Effect operator t (.removeRole id) operator t'
  | updatePermittable {user : UserId} {roles : List RoleId} {t' : Tables} (h : Grant t t') :
    Effect operator t (.updatePermittable user roles) operator t'
  | addNewRole {user : UserId} {workspace : WorkspaceId} {role : RoleId} {t' : Tables}
    (h : Grant t t') : Effect operator t (.addWorkspaceRole user workspace role) operator t'
  | addKnownRole {user : UserId} {workspace : WorkspaceId} {role : RoleId} :
    Effect operator t (.addWorkspaceRole user workspace role) operator t

/-- What an operation comes to when it succeeds. -/
theorem effect_of_perform {defaultPolicy : Option PolicyId} {operator held : Operator}
    {operation : Operation} {moment : Moment} {directory directory' : Directory}
    (hfiled : directory.store.tables.Filed)
    (h : (operation.act defaultPolicy operator).perform moment directory =
      (.ok held, directory')) :
    Effect operator directory.store.tables operation held directory'.store.tables := by
  cases operation with
  | createWorkspace name aliasName firstUser =>
    obtain ⟨⟨ws, result⟩, hcreate, hheld⟩ := Action.perform_bind_pure_eq_ok.1 h
    obtain ⟨rfl, hopening⟩ := Workspaces.create_effect hcreate
    rw [hheld]
    exact .createWorkspace hopening
  | updateWorkspace id change =>
    obtain ⟨_, hdone, rfl⟩ := Action.perform_bind_pure_eq_ok.1 h
    exact .edit rfl (Workspaces.update_effect hdone)
  | addUserMember id users =>
    obtain ⟨_, hdone, rfl⟩ := Action.perform_bind_pure_eq_ok.1 h
    exact .edit rfl (Workspaces.addUserMember_effect hfiled hdone)
  | addIntegrationMember id integration role =>
    obtain ⟨_, hdone, rfl⟩ := Action.perform_bind_pure_eq_ok.1 h
    exact .edit rfl (Workspaces.integrations_effect Members.sameUsers_of_addIntegration hdone)
  | updateUserMember id member role =>
    obtain ⟨_, hdone, rfl⟩ := Action.perform_bind_pure_eq_ok.1 h
    exact .edit rfl (Workspaces.updateUserMember_effect hdone)
  | updateIntegrationMember id integration role =>
    obtain ⟨_, hdone, rfl⟩ := Action.perform_bind_pure_eq_ok.1 h
    exact .edit rfl
      (Workspaces.integrations_effect Members.sameUsers_of_updateIntegrationRole hdone)
  | removeUserMember id member =>
    obtain ⟨_, hdone, rfl⟩ := Action.perform_bind_pure_eq_ok.1 h
    exact .leave rfl (Workspaces.removeMultipleUserMembers_effect hfiled hdone)
  | removeMultipleUserMembers id members =>
    obtain ⟨_, hdone, rfl⟩ := Action.perform_bind_pure_eq_ok.1 h
    exact .leave rfl (Workspaces.removeMultipleUserMembers_effect hfiled hdone)
  | removeIntegration id integration =>
    obtain ⟨_, hdone, rfl⟩ := Action.perform_bind_pure_eq_ok.1 h
    exact .edit rfl (Workspaces.integrations_effect Members.sameUsers_of_deleteIntegration hdone)
  | removeIntegrations id integrations =>
    obtain ⟨_, hdone, rfl⟩ := Action.perform_bind_pure_eq_ok.1 h
    exact .edit rfl (Workspaces.integrations_effect Members.sameUsers_of_deleteIntegrations hdone)
  | transferOwnership id newOwner =>
    obtain ⟨_, hdone, rfl⟩ := Action.perform_bind_pure_eq_ok.1 h
    exact .edit rfl (Workspaces.transferOwnership_effect hdone)
  | removeWorkspace id =>
    obtain ⟨_, hdone, rfl⟩ := Action.perform_bind_pure_eq_ok.1 h
    exact .removeWorkspace (Workspaces.remove_effect hfiled hdone)
  | signup request =>
    obtain ⟨_, hdone, rfl⟩ := Action.perform_bind_pure_eq_ok.1 h
    exact .signup (Accounts.signup_effect hdone)
  | signupSubject subject email name =>
    obtain ⟨_, hdone, rfl⟩ := Action.perform_bind_pure_eq_ok.1 h
    obtain hsame | harrival := Accounts.signupSubject_effect hdone
    · rw [hsame]
      exact .signupKnownSubject
    · exact .signupNewSubject harrival
  | updateMe change =>
    obtain ⟨_, hdone, rfl⟩ := Action.perform_bind_pure_eq_ok.1 h
    exact .updateMe (Accounts.updateMe_effect hdone)
  | removeMe =>
    obtain ⟨_, hdone, rfl⟩ := Action.perform_bind_pure_eq_ok.1 h
    exact .removeMe (Accounts.removeMe_effect hfiled hdone)
  | createRole name =>
    obtain ⟨_, hdone, rfl⟩ := Action.perform_bind_pure_eq_ok.1 h
    exact .createRole (AccessRoles.create_effect hdone)
  | updateRole id name =>
    obtain ⟨_, hdone, rfl⟩ := Action.perform_bind_pure_eq_ok.1 h
    exact .updateRole (AccessRoles.update_effect hdone)
  | removeRole id =>
    obtain ⟨_, hdone, rfl⟩ := Action.perform_bind_pure_eq_ok.1 h
    exact .removeRole (AccessRoles.remove_effect hfiled hdone)
  | updatePermittable user roles =>
    obtain ⟨_, hdone, rfl⟩ := Action.perform_bind_pure_eq_ok.1 h
    exact .updatePermittable (Grants.updatePermittable_effect hfiled hdone)
  | addWorkspaceRole user workspace role =>
    obtain ⟨_, hdone, rfl⟩ := Action.perform_bind_pure_eq_ok.1 h
    obtain hsame | hgrant := Grants.addWorkspaceRole_effect hdone
    · rw [hsame]
      exact .addKnownRole
    · exact .addNewRole hgrant

end Operation

/-- A call fails and leaves the store as it was, or its operation succeeds. -/
theorem Call.perform_inversion (call : Call) (store : Store) :
    (∃ error, call.perform store = (.error error, store)) ∨
      ∃ held directory, call.perform store = (.ok held, directory.store) ∧
        (call.operation.act call.defaultPolicy call.operator).perform call.moment { store } =
          (.ok held, directory) := by
  match hrun : (call.operation.act call.defaultPolicy call.operator).perform call.moment { store } with
  | (.error error, directory) =>
    have hstore : directory.store = store :=
      (call.operation.actsOnce_act call.defaultPolicy call.operator).store_of_error hrun
    refine .inl ⟨error, ?_⟩
    rw [Call.perform, hrun, ← hstore]
  | (.ok held, directory) =>
    refine .inr ⟨held, directory, ?_, rfl⟩
    rw [Call.perform, hrun]

/-- A call fails and leaves the store as it was, or its operation does to the tables what it is
meant to. -/
theorem Call.perform_cases (call : Call) {store : Store} (hfiled : store.tables.Filed) :
    (∃ error, call.perform store = (.error error, store)) ∨
      ∃ held store', call.perform store = (.ok held, store') ∧
        Operation.Effect call.operator store.tables call.operation held store'.tables := by
  obtain hfails | ⟨held, directory, hcall, hrun⟩ := call.perform_inversion store
  · exact .inl hfails
  · exact .inr ⟨held, directory.store, hcall, Operation.effect_of_perform hfiled hrun⟩

end Roster
