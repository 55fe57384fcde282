import Roster.Config
import Roster.Proofs.Callers
import Roster.Proofs.Policies

/-!
# The empty policy

Where a policy is named, the empty one means none. A default policy is taken as it is, though: a
workspace comes under the empty policy when the default that applies to it is the empty one. No other
way leads there, so it never happens where no default is empty.
-/

namespace Roster

open Time (Instant)

/-- The policy with the empty id. -/
def PolicyId.empty : PolicyId := ⟨""⟩

/-- A policy that is named and applied is not the empty one. -/
theorem Operator.policy_some_ne_empty (operator : Operator) (named : PolicyId) :
    operator.policy (some named) ≠ some PolicyId.empty := by
  intro h
  obtain ⟨hnamed, hsome⟩ := Option.ite_none_left_eq_some.1 h
  obtain rfl := Option.some.inj hsome
  exact hnamed rfl

namespace Tables

variable {t t' : Tables} {ws : Workspace}

/-- Some stored workspace is under the empty policy. -/
def UsesEmptyPolicy (t : Tables) : Prop :=
  ∃ id ws, t.workspaces.get? id = some ws ∧ ws.policy = some PolicyId.empty

/-- Every policy in use was in use before. -/
def BringsNoPolicy (t t' : Tables) : Prop :=
  ∀ id ws, t'.workspaces.get? id = some ws →
    ∃ key row, t.workspaces.get? key = some row ∧ ws.policy = row.policy

/-- No policy comes where the workspaces stay. -/
theorem BringsNoPolicy.of_same (h : t'.workspaces = t.workspaces) : t.BringsNoPolicy t' :=
  fun id ws hws => ⟨id, ws, h ▸ hws, rfl⟩

/-- Where no policy comes, the empty one does not. -/
theorem BringsNoPolicy.not_usesEmptyPolicy (h : t.BringsNoPolicy t') (hnone : ¬ t.UsesEmptyPolicy) :
    ¬ t'.UsesEmptyPolicy := by
  rintro ⟨id, ws, hws, hempty⟩
  obtain ⟨key, row, hrow, hpolicy⟩ := h id ws hws
  exact hnone ⟨key, row, hrow, hpolicy ▸ hempty⟩

/-- Where all workspaces but one are as before, that one decides. -/
theorem usesEmptyPolicy_iff_of_filed (hnone : ¬ t.UsesEmptyPolicy)
    (hrows : ∀ key, t'.workspaces.get? key =
      if ws.id = key then some ws else t.workspaces.get? key) :
    t'.UsesEmptyPolicy ↔ ws.policy = some PolicyId.empty := by
  constructor
  · rintro ⟨key, row, hrow, hempty⟩
    rw [hrows] at hrow
    split at hrow
    · obtain rfl := Option.some.inj hrow
      exact hempty
    · exact absurd ⟨key, row, hrow, hempty⟩ hnone
  · intro hempty
    exact ⟨ws.id, ws, by rw [hrows, if_pos rfl], hempty⟩

end Tables

/-! ## Operations that bring no policy -/

namespace Accounts

variable {operator : Operator} {moment : Moment} {directory directory' : Directory}

/-- A workspace that stays when a user goes for good keeps its policy. -/
theorem Parting.policy_of_stays {me : UserId} {home : WorkspaceId} {now : Instant}
    {row ws : Workspace} (h : Parting me home now row (.stays ws)) : ws.policy = row.policy := by
  obtain ⟨-, before, hrestore, hfarewell⟩ := h
  obtain ⟨-, rfl⟩ := Workspace.restore_eq_ok.1 hrestore
  obtain ⟨hgoes, -⟩ | ⟨ws', hstays, hleave, -⟩ := farewell_eq_ok hfarewell
  · exact nomatch hgoes
  · obtain rfl := Farewell.stays.inj hstays
    obtain ⟨members, -, rfl⟩ := Workspace.changeMembers_eq_ok.1 hleave
    rfl

/-- Users who change something about themselves bring no policy. -/
theorem bringsNoPolicy_of_updateMe {change : UserChange} {user : User}
    (h : (updateMe change operator).perform moment directory = (.ok user, directory')) :
    directory.store.tables.BringsNoPolicy directory'.store.tables := by
  obtain ⟨me, before, -, -, -, -, -, ⟨-, htables⟩ | ⟨home, -, hshows, htables⟩⟩ := updateMe_inversion h
  · rw [htables]
    exact .of_same rfl
  · rw [htables]
    intro id ws hws
    obtain ⟨-, rfl⟩ | ⟨-, hws⟩ := Tables.get?_fileWorkspace.1 hws
    · obtain ⟨row, hrow, hpolicy⟩ := hshows.policy
      exact ⟨before.workspace, row, hrow, hpolicy⟩
    · exact ⟨id, ws, hws, rfl⟩

/-- Users who go for good bring no policy. -/
theorem bringsNoPolicy_of_removeMe (hfiled : directory.store.tables.Filed)
    (h : (removeMe operator).perform moment directory = (.ok (), directory')) :
    directory.store.tables.BringsNoPolicy directory'.store.tables := by
  obtain ⟨me, user, farewells, -, -, hpartings, hworkspaces, -⟩ := removeMe_inversion hfiled h
  intro id ws hws
  rw [hworkspaces] at hws
  obtain hkept | hstays := mem_staying_of_parted hws
  · exact ⟨id, ws, hkept, rfl⟩
  · obtain ⟨row, hrow, hparting⟩ := hpartings.only _ (mem_staying.1 hstays)
    exact ⟨row.id, row, hrow, hparting.policy_of_stays⟩

end Accounts

/-- Removing a workspace brings no policy. -/
theorem Closure.bringsNoPolicy {operator : Operator} {id : WorkspaceId} {t t' : Tables}
    (h : Closure operator id t t') : t.BringsNoPolicy t' := by
  obtain ⟨-, -, -, -, hrewrites⟩ := h
  intro key ws hws
  rw [hrewrites.workspaces] at hws
  exact ⟨key, ws, (Table.get?_erase_eq_some.1 hws).2, rfl⟩

/-! ## Default policies that apply -/

/-- The home of a user who signs up comes under the default policy that is configured. -/
theorem Accounts.usesEmptyPolicy_of_signup {defaultPolicy : Option PolicyId} {request : Signup}
    {account : User × Workspace} {moment : Moment} {directory directory' : Directory}
    (h : (signup defaultPolicy request).perform moment directory = (.ok account, directory'))
    (hnone : ¬ directory.store.tables.UsesEmptyPolicy) :
    directory'.store.tables.UsesEmptyPolicy ↔ defaultPolicy = some PolicyId.empty := by
  obtain ⟨user, home⟩ := account
  obtain ⟨_, homeId, _, hbuild, -, -, -, -, -, htables⟩ := signup_inversion h
  obtain ⟨_, _, -, -, -, -, rfl⟩ := Workspace.build_eq_ok.1 hbuild
  have hrows (key : WorkspaceId) :=
    (congrArg (·.workspaces.get? key) htables).trans (Table.get?_insert ..)
  exact Tables.usesEmptyPolicy_iff_of_filed hnone hrows

namespace Operation

variable {defaultPolicy : Option PolicyId} {operator held : Operator} {operation : Operation}
  {moment : Moment} {directory directory' : Directory}

/-- The default policy under which an operation puts a workspace: the configured one for the home of
someone who signs up; that of the operator for a new workspace, and for one without a policy whose
members change. -/
def defaultApplied (t : Tables) (defaultPolicy : Option PolicyId) (operator : Operator)
    (operation : Operation) : Option PolicyId :=
  match operation with
  | signup _ => defaultPolicy
  | signupSubject subject _ _ =>
    if (t.users.values.find? (·.hasSubject subject)).isSome then none else defaultPolicy
  | createWorkspace _ _ _ => operator.defaultPolicy
  | updateWorkspace _ _ => none
  | operation => operation.revised?.bind fun _ =>
    if (operation.policyBefore t).isSome then none else operator.defaultPolicy

/-- A default policy that applies is the configured one or that of the operator. -/
theorem default_of_defaultApplied {t : Tables} {policy : PolicyId}
    (h : operation.defaultApplied t defaultPolicy operator = some policy) :
    defaultPolicy = some policy ∨ operator.defaultPolicy = some policy := by
  unfold defaultApplied at h
  split at h
  · exact .inl h
  · exact .inl (Option.ite_none_left_eq_some.1 h).2
  · exact .inr h
  · exact nomatch h
  · obtain ⟨_, -, h⟩ := Option.bind_eq_some_iff.1 h
    exact .inr (Option.ite_none_left_eq_some.1 h).2

/-- An operation that returns a workspace brings in the empty policy exactly if it applies it by
default. -/
theorem usesEmptyPolicy_of_returned {action : Action Workspace} {ws : Workspace}
    (hreturned : operation.returned? operator = some action)
    (h : action.perform moment directory = (.ok ws, directory'))
    (hnone : ¬ directory.store.tables.UsesEmptyPolicy) :
    directory'.store.tables.UsesEmptyPolicy ↔
      operation.defaultApplied directory.store.tables defaultPolicy operator =
        some PolicyId.empty := by
  obtain ⟨hpolicy, hrows⟩ := policy_of_returned hreturned h
  have hbefore : operation.policyBefore directory.store.tables ≠ some PolicyId.empty := by
    intro hempty
    obtain ⟨row, hrow, hempty⟩ := Option.bind_eq_some_iff.1 hempty
    obtain ⟨id, -, hrow⟩ := Option.bind_eq_some_iff.1 hrow
    exact hnone ⟨id, row, hrow, hempty⟩
  rw [Tables.usesEmptyPolicy_iff_of_filed hnone hrows, hpolicy]
  cases operation with
  | updateWorkspace id change =>
    refine iff_of_false (fun hafter => ?_) nofun
    cases hnamed : change.policy with
    | none =>
      rw [policyAfter, hnamed] at hafter
      exact hbefore hafter
    | some named =>
      rw [policyAfter, hnamed] at hafter
      exact operator.policy_some_ne_empty named hafter
  | createWorkspace name aliasName firstUser => rfl
  | signup | signupSubject | updateMe | removeMe | removeWorkspace | createRole | updateRole
    | removeRole | updatePermittable | addWorkspaceRole => cases hreturned
  | _ =>
    simp only [policyAfter, defaultApplied, revised?, edited?, leaving?, Option.map_some,
      Option.map_none, Option.none_or, Option.or_none, Option.bind_some]
    revert hbefore
    cases policyBefore _ _ <;> simp

/-- An operation that succeeds brings in the empty policy exactly if it applies it by default. -/
theorem usesEmptyPolicy_of_perform (hfiled : directory.store.tables.Filed)
    (h : (operation.act defaultPolicy operator).perform moment directory = (.ok held, directory'))
    (hnone : ¬ directory.store.tables.UsesEmptyPolicy) :
    directory'.store.tables.UsesEmptyPolicy ↔
      operation.defaultApplied directory.store.tables defaultPolicy operator =
        some PolicyId.empty := by
  have hspares (hbrings : directory.store.tables.BringsNoPolicy directory'.store.tables)
      (hdefault : operation.defaultApplied directory.store.tables defaultPolicy operator = none) :
      directory'.store.tables.UsesEmptyPolicy ↔
        operation.defaultApplied directory.store.tables defaultPolicy operator =
          some PolicyId.empty :=
    iff_of_false (hbrings.not_usesEmptyPolicy hnone) (hdefault ▸ nofun)
  have heffect := effect_of_perform hfiled h
  cases operation with
  | createWorkspace name aliasName firstUser =>
    obtain ⟨⟨ws, _⟩, hcreate, -⟩ := Action.perform_bind_pure_eq_ok.1 h
    exact usesEmptyPolicy_of_returned rfl (Action.perform_bind_pure_eq_ok.2 ⟨_, hcreate, rfl⟩) hnone
  | updateWorkspace | addUserMember | addIntegrationMember | updateUserMember
    | updateIntegrationMember | removeUserMember | removeMultipleUserMembers | removeIntegration
    | removeIntegrations | transferOwnership =>
    obtain ⟨ws, hdone, -⟩ := Action.perform_bind_pure_eq_ok.1 h
    exact usesEmptyPolicy_of_returned rfl hdone hnone
  | signup request =>
    obtain ⟨_, hdone, -⟩ := Action.perform_bind_pure_eq_ok.1 h
    exact Accounts.usesEmptyPolicy_of_signup hdone hnone
  | signupSubject subject email name =>
    obtain ⟨_, hdone, -⟩ := Action.perform_bind_pure_eq_ok.1 h
    obtain ⟨-, ⟨hknown, -, rfl⟩ | ⟨hunknown, hsignup⟩⟩ := Accounts.signupSubject_eq_ok.1 hdone
    · exact hspares (.of_same rfl) (by rw [defaultApplied, hknown]; rfl)
    · rw [Accounts.usesEmptyPolicy_of_signup hsignup hnone, defaultApplied, hunknown]
      rfl
  | updateMe change =>
    obtain ⟨_, hdone, -⟩ := Action.perform_bind_pure_eq_ok.1 h
    exact hspares (Accounts.bringsNoPolicy_of_updateMe hdone) rfl
  | removeMe =>
    obtain ⟨_, hdone, -⟩ := Action.perform_bind_pure_eq_ok.1 h
    exact hspares (Accounts.bringsNoPolicy_of_removeMe hfiled hdone) rfl
  | removeWorkspace id =>
    obtain ⟨_, hdone, -⟩ := Action.perform_bind_pure_eq_ok.1 h
    exact hspares (Workspaces.remove_effect hfiled hdone).bringsNoPolicy rfl
  | createRole | updateRole | removeRole | updatePermittable | addWorkspaceRole =>
    exact hspares (.of_same (heffect.same_of_governs trivial).1) rfl

end Operation

/-! ## The configured default -/

/-- The default policy that is loaded is the empty one exactly if the file says so and the environment
says nothing; an environment that names the empty policy means none. -/
theorem Config.emptyDefault_of_load {environment : Environment} {file : Option String}
    {config : Config} (h : load environment file = .ok config) :
    config.defaultPolicy = some PolicyId.empty ↔
      environment.lookup "TENANTRY_DEFAULT_POLICY" = none ∧ ∃ s written, file = some s ∧
        ofText? environment s = some written ∧ written.defaultPolicy = some PolicyId.empty := by
  have hoverridden (written : Config) :
      (overridden environment written).defaultPolicy = some PolicyId.empty ↔
        environment.lookup "TENANTRY_DEFAULT_POLICY" = none ∧
          written.defaultPolicy = some PolicyId.empty := by
    unfold overridden
    cases environment.lookup "TENANTRY_DEFAULT_POLICY" with
    | none => simp
    | some named =>
      refine iff_of_false (fun hempty => ?_) nofun
      obtain ⟨hnamed, hsome⟩ := Option.ite_none_left_eq_some.1 hempty
      exact hnamed (congrArg (·.text.isEmpty) (Option.some.inj hsome))
  cases file with
  | none =>
    obtain rfl := Except.ok.inj h
    rw [hoverridden]
    exact and_congr_right fun _ => iff_of_false nofun nofun
  | some s =>
    cases hwritten : ofText? environment s with
    | none => simp [load, hwritten] at h
    | some written =>
      obtain rfl : overridden environment written = config := by simpa [load, hwritten] using h
      rw [hoverridden]
      simp [hwritten]

/-! ## Calls and runs -/

namespace Call

variable {store : Store}

/-- A call succeeds and puts a workspace under a default policy that is the empty one. -/
def AppliesEmptyPolicy (call : Call) (store : Store) : Prop :=
  (∃ held, (call.perform store).1 = .ok held) ∧
    call.operation.defaultApplied store.tables call.defaultPolicy call.operator =
      some PolicyId.empty

/-- Where the empty policy is not in use, a call brings it in exactly if it applies it by default. -/
theorem usesEmptyPolicy_iff (call : Call) (hfiled : store.tables.Filed)
    (hnone : ¬ store.tables.UsesEmptyPolicy) :
    (call.perform store).2.tables.UsesEmptyPolicy ↔ call.AppliesEmptyPolicy store := by
  unfold AppliesEmptyPolicy
  obtain ⟨error, hcall⟩ | ⟨held, directory, hcall, hrun⟩ := call.perform_inversion store
  · rw [hcall]
    exact iff_of_false hnone fun happlies => nomatch happlies.1
  · rw [hcall]
    exact (Operation.usesEmptyPolicy_of_perform hfiled hrun hnone).trans
      (and_iff_right ⟨held, rfl⟩).symm

end Call

namespace Store

/-- Along a run that starts from sound tables, and without the empty policy in use, it never comes in
exactly if no call applies it by default. -/
theorem usesEmptyPolicy_throughout_iff {store : Store} (hsound : store.tables.Sound)
    (hnone : ¬ store.tables.UsesEmptyPolicy) (calls : List Call) :
    (∀ n, ¬ (store.after (calls.take n)).tables.UsesEmptyPolicy) ↔
      ∀ n (call : Call), calls[n]? = some call →
        ¬ call.AppliesEmptyPolicy (store.after (calls.take n)) := by
  induction calls generalizing store with
  | nil => simpa [after] using hnone
  | cons first rest ih =>
    have hfirst := first.usesEmptyPolicy_iff hsound.filed hnone
    constructor
    · intro hnever n call hcall
      have hnone₁ : ¬ (first.perform store).2.tables.UsesEmptyPolicy := hnever 1
      cases n with
      | zero =>
        obtain rfl := Option.some.inj hcall
        exact fun happlies => hnone₁ (hfirst.2 happlies)
      | succ n => exact (ih (hsound.of_call first) hnone₁).1 (fun n => hnever (n + 1)) n call hcall
    · intro happlies n
      cases n with
      | zero => exact hnone
      | succ n =>
        have hnone₁ := mt hfirst.1 (happlies 0 first rfl)
        exact (ih (hsound.of_call first) hnone₁).2 (fun n => happlies (n + 1)) n

/-- From an empty store on, the empty policy is never in use exactly as long as no call applies it by
default; so it is never in use where neither a configured default nor that of an operator is the empty
policy. -/
theorem never_usesEmptyPolicy_iff (label : Nat) (file : Option String) (attached : Bool)
    (calls : List Call) :
    let reached (n : Nat) := (blank label file attached).after (calls.take n)
    ((∀ n, ¬ (reached n).tables.UsesEmptyPolicy) ↔
      ∀ n (call : Call), calls[n]? = some call → ¬ call.AppliesEmptyPolicy (reached n)) ∧
    ((∀ call ∈ calls, call.defaultPolicy ≠ some PolicyId.empty ∧
        call.operator.defaultPolicy ≠ some PolicyId.empty) →
      ∀ n, ¬ (reached n).tables.UsesEmptyPolicy) := by
  intro reached
  have hnone : ¬ (blank label file attached).tables.UsesEmptyPolicy := fun ⟨_, _, hws, _⟩ =>
    nomatch hws
  have hiff := usesEmptyPolicy_throughout_iff (sound_blank label file attached) hnone calls
  refine ⟨hiff, fun hdefaults => hiff.2 fun n call hcall happlies => ?_⟩
  obtain ⟨hconfigured, hoperator⟩ := hdefaults call (List.mem_of_getElem? hcall)
  exact (Operation.default_of_defaultApplied happlies.2).elim hconfigured hoperator

/-! ### An empty default in the configuration -/

namespace EmptyDefault

/-- A configuration file that says that the default policy is the empty one. -/
def text : String :=
  "default_policy = \"\"\n"

/-- What the file says. -/
def config : Config :=
  { Config.default [] with defaultPolicy := some PolicyId.empty }

/-- Ann signs up where a default policy is configured, or none. -/
def signup (defaultPolicy : Option PolicyId) : Call where
  moment := .epoch
  defaultPolicy
  operator := {}
  operation := .signup
    { name := "Ann", email := "ann@example.com", user := some ⟨"ann"⟩, workspace := some ⟨"home"⟩ }

/-- Where another default is configured, the empty policy is not in use once ann has signed up. -/
theorem not_used_by_signup :
    ¬ ((blank 0 none false).after [signup (some ⟨"basic"⟩)]).tables.UsesEmptyPolicy := by
  refine (never_usesEmptyPolicy_iff 0 none false [signup (some ⟨"basic"⟩)]).2 ?_ 1
  decide

/-- Where the empty one is configured, ann signs up with a home under the empty policy. -/
theorem used_by_signup :
    Config.ofText? [] text = some config ∧
      ((blank 0 none false).after [signup config.defaultPolicy]).tables.UsesEmptyPolicy :=
  ⟨by decide +kernel, ⟨"home"⟩, _, rfl, rfl⟩

end EmptyDefault

end Store

end Roster
