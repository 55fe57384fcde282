import Roster.Proofs.Effects

/-!
# What operations make of a workspace

An operation that returns a workspace files that workspace and no other. It is a new one; or one
that was there, with what a change gives it; or one that was there, with other members, which then
comes under the default policy if it had no policy.
-/

namespace Roster

open Time (Instant)

namespace Members

variable {members members' members'' : Members} {user : UserId} {role : Role}

/-- The users stay as they are if they are fixed, and are not fixed before or after if they do
not. -/
def Steady (members members' : Members) : Prop :=
  members.SameUsers members' ∨ members.fixed = false ∧ members'.fixed = false

/-- What is steady from one change to the next is steady over both. -/
theorem Steady.trans (h : members.Steady members') (h' : members'.Steady members'') :
    members.Steady members'' := by
  obtain ⟨husers, hfixed⟩ | ⟨hbefore, hafter⟩ := h <;>
    obtain ⟨husers', hfixed'⟩ | ⟨hbefore', hafter'⟩ := h'
  · exact .inl ⟨husers'.trans husers, hfixed'.trans hfixed⟩
  · exact .inr ⟨hfixed.symm.trans hbefore', hafter'⟩
  · exact .inr ⟨hbefore, hfixed'.trans hafter⟩
  · exact .inr ⟨hbefore, hafter'⟩

/-- Whether the users are fixed does not change. -/
theorem Steady.fixed (h : members.Steady members') : members'.fixed = members.fixed := by
  obtain ⟨-, hfixed⟩ | ⟨hbefore, hafter⟩ := h
  · exact hfixed
  · exact hafter.trans hbefore.symm

/-- Fixed users stay as they are. -/
theorem Steady.users (h : members.Steady members') (hfixed : members.fixed = true) :
    members'.users = members.users := by
  obtain ⟨husers, -⟩ | ⟨hbefore, -⟩ := h
  · exact husers
  · exact absurd (hbefore.symm.trans hfixed) Bool.false_ne_true

/-- Users join only where the users are not fixed. -/
theorem steady_of_join {role : Option Role} {invitedBy : UserId}
    (h : members.join user role invitedBy = .ok members') : members.Steady members' := by
  obtain ⟨hopen, -, rfl⟩ := join_eq_ok.1 h
  exact .inr ⟨hopen, hopen⟩

/-- Users leave only where the users are not fixed. -/
theorem steady_of_leave (h : members.leave user = .ok members') : members.Steady members' := by
  obtain ⟨hopen, -, rfl⟩ := leave_eq_ok.1 h
  exact .inr ⟨hopen, hopen⟩

/-- Users get other roles only where the users are not fixed. -/
theorem steady_of_updateUserRole (h : members.updateUserRole user role = .ok members') :
    members.Steady members' := by
  obtain ⟨hopen, -, -, rfl⟩ := updateUserRole_eq_ok.1 h
  exact .inr ⟨hopen, hopen⟩

end Members

namespace Workspace

variable {now : Instant} {ws ws' ws'' : Workspace}

/-- A workspace has other members from some time on, and is otherwise the same. -/
structure Regrouped (now : Instant) (ws ws' : Workspace) : Prop where
  steady : ws.members.Steady ws'.members
  rest : ws' = { ws with members := ws'.members, updatedAt := now }

/-- A workspace that is regrouped twice is regrouped. -/
theorem Regrouped.trans (h : ws.Regrouped now ws') (h' : ws'.Regrouped now ws'') :
    ws.Regrouped now ws'' where
  steady := h.steady.trans h'.steady
  rest := by
    have hrest := h'.rest
    rw [h.rest] at hrest
    exact hrest

/-- A change that the members allow regroups the workspace. -/
theorem regrouped_of_changeMembers {change : Members → Except Error Members}
    (hsteady : ∀ {members members'}, change members = .ok members' → members.Steady members')
    (h : ws.changeMembers now change = .ok ws') : ws.Regrouped now ws' := by
  obtain ⟨members, hmembers, rfl⟩ := changeMembers_eq_ok.1 h
  exact ⟨hsteady hmembers, rfl⟩

/-- A workspace is regrouped by steps of which there is at least one and each regroups it. -/
theorem regrouped_of_foldlM {α : Type} {step : Workspace → α → Except Error Workspace}
    (hstep : ∀ {w a w'}, step w a = .ok w' → w.Regrouped now w') {items : List α}
    (hsome : items ≠ []) (h : items.foldlM step ws = .ok ws') : ws.Regrouped now ws' := by
  match items, hsome with
  | first :: rest, _ =>
    rw [List.foldlM_cons, bind_eq_ok] at h
    obtain ⟨w, hw, hrest⟩ := h
    exact foldlM_induction (P := ws.Regrouped now) hrest (hstep hw) fun w _ w' _ hmade hw =>
      hw.trans (hstep hmade)

end Workspace

/-! ## Loops that spare the rows -/

/-- A loop keeps what each of its turns keeps. -/
theorem Program.keeps_of_forIn {α : Type} {ids : Nat → String} {s s' : Draft × Nat} {u v : PUnit}
    {Kept : Draft × Nat → Prop} {items : List α} {body : α → PUnit → Program (ForInStep PUnit)}
    (hbody : ∀ a u {s step s'}, (body a u).Ends ids s step s' → Kept s → Kept s')
    (hends : (forIn items u body).Ends ids s v s') (h : Kept s) : Kept s' := by
  induction items generalizing u s with
  | nil =>
    rw [List.forIn_nil, ends_pure] at hends
    rwa [hends.2]
  | cons a rest ih =>
    rw [List.forIn_cons, ends_bind] at hends
    obtain ⟨step, s₁, hturn, hrest⟩ := hends
    have hkept := hbody a u hturn h
    cases step with
    | done =>
      obtain ⟨-, rfl⟩ := ends_pure.1 hrest
      exact hkept
    | yield => exact ih hrest hkept

/-- Tables with the same workspaces and users as others. -/
structure Tables.SameEntries (t t' : Tables) : Prop where
  workspaces : t'.workspaces = t.workspaces
  users : t'.users = t.users

/-- A turn that saves a permittable, or does nothing, spares workspaces and users. -/
theorem Program.sameEntries_of_save {ids : Nat → String} {base : Tables} {changed : Bool}
    {p : Permittable} {s s' : Draft × Nat} {step : ForInStep PUnit}
    (hends : (if changed then do
        Program.command (.savePermittable p)
        pure (ForInStep.yield PUnit.unit)
      else pure (ForInStep.yield PUnit.unit) : Program (ForInStep PUnit)).Ends ids s step s')
    (h : base.SameEntries s.1.tables) : base.SameEntries s'.1.tables := by
  simp only [ends_ite, ends_bind, ends_command, ends_pure, Command.apply_savePermittable] at hends
  obtain ⟨-, _, _, ⟨_, ⟨-, rfl⟩, rfl⟩, -, rfl⟩ | ⟨-, -, rfl⟩ := hends
  · exact ⟨h.workspaces, h.users⟩
  · exact h

/-! ## Changed workspaces -/

/-- A workspace has other members from some time on, and comes under the default policy of the
operator if it had no policy. -/
def Workspace.Rearranged (operator : Operator) (now : Instant) (ws ws' : Workspace) : Prop :=
  ∃ regrouped, ws.Regrouped now regrouped ∧
    ws' = Workspaces.withDefaultPolicy operator now regrouped

/-- A workspace that the tables give out is filed as what is made of it; the other workspaces and all
users stay as they are. -/
inductive Revision (id : WorkspaceId) (Made : Workspace → Workspace → Prop) (t : Tables)
    (ws' : Workspace) (t' : Tables) : Prop
  | intro {ws : Workspace} {base : Tables} (hshows : t.Shows id ws) (hmade : Made ws ws')
    (hbase : t.SameEntries base) (hfiled : t' = base.fileWorkspace ws')

namespace Workspaces

open Program

variable {operator : Operator} {moment : Moment} {directory directory' : Directory}
  {id : WorkspaceId} {ws' : Workspace} {Made : Workspace → Workspace → Prop}

/-- An edit files what the change makes of the workspace. -/
theorem revision_of_edit {usecase : Usecase} (htransactional : usecase.transactional = true)
    {before : UserId → Except Error Unit}
    {change : UserId → Instant → Workspace → Program Workspace}
    (h : (edit usecase id operator before change).perform moment directory = (.ok ws', directory'))
    (hchange : ∀ {user ws s}, (change user moment.now ws).Ends moment.ids
      (Usecase.opening directory) ws' s →
        Made ws ws' ∧ directory.store.tables.SameEntries s.1.tables) :
    Revision id Made directory.store.tables ws' directory'.store.tables := by
  obtain ⟨user, ws, s, -, -, -, hshows, hends, htables⟩ := edit_inversion htransactional h
  obtain ⟨hmade, hsame⟩ := hchange hends
  exact .intro hshows hmade hsame htables

/-- A change that settles rearranges the workspace if it regroups it. -/
theorem rearranged_of_settled {outcome : Except Error Workspace} {ws : Workspace}
    {s : Draft × Nat} (hends : (settled operator moment.now outcome).Ends moment.ids
      (Usecase.opening directory) ws' s)
    (houtcome : ∀ {changed}, outcome = .ok changed → ws.Regrouped moment.now changed) :
    ws.Rearranged operator moment.now ws' ∧ directory.store.tables.SameEntries s.1.tables := by
  obtain ⟨changed, hchanged, rfl, rfl⟩ := ends_settled.1 hends
  exact ⟨⟨changed, houtcome hchanged, rfl⟩, rfl, rfl⟩

/-- A change of the members that leaves fixed users alone rearranges the workspace. -/
theorem revision_of_changeMembers {before : UserId → Except Error Unit}
    {change : UserId → Members → Except Error Members}
    (hsteady : ∀ {user members members'}, change user members = .ok members' →
      members.Steady members')
    (h : (edit (ownership id) id operator before fun user now ws =>
      settled operator now (ws.changeMembers now (change user))).perform moment directory =
        (.ok ws', directory')) :
    Revision id (·.Rearranged operator moment.now) directory.store.tables ws'
      directory'.store.tables :=
  revision_of_edit rfl h fun hends => rearranged_of_settled hends
    (Workspace.regrouped_of_changeMembers hsteady)

/-- Adding users rearranges the workspace. -/
theorem revision_of_addUserMember {users : List (UserId × Role)}
    (h : (addUserMember id users operator).perform moment directory = (.ok ws', directory')) :
    Revision id (·.Rearranged operator moment.now) directory.store.tables ws'
      directory'.store.tables := by
  unfold addUserMember at h
  simp only [Action.perform_bind_eq_ok, Action.perform_ofExcept, Prod.mk.injEq] at h
  obtain ⟨_, _, ⟨_, rfl⟩, h⟩ := h
  split at h
  · simp at h
  · rename_i hsome
    refine revision_of_edit rfl h fun {inviter ws s} hends => ?_
    simp only [ends_bind, ends_notPersonal, ends_query] at hends
    obtain ⟨_, _, ⟨-, rfl⟩, _, _, ⟨-, rfl⟩, hends⟩ := hends
    split at hends
    · simp at hends
    · exact rearranged_of_settled hends <| Workspace.regrouped_of_foldlM
        (Workspace.regrouped_of_changeMembers Members.steady_of_join)
        fun hnil => hsome (List.isEmpty_iff.2 hnil)

/-- Taking users out rearranges the workspace. -/
theorem revision_of_removeMultipleUserMembers {members : List UserId}
    (h : (removeMultipleUserMembers id members operator).perform moment directory =
      (.ok ws', directory')) :
    Revision id (·.Rearranged operator moment.now) directory.store.tables ws'
      directory'.store.tables := by
  unfold removeMultipleUserMembers at h
  rw [Action.perform_bind_eq_ok] at h
  obtain ⟨_, d₁, hfirst, h⟩ := h
  rw [Action.perform_ofExcept, Prod.mk.injEq] at hfirst
  obtain ⟨-, rfl⟩ := hfirst
  extract_lets targets go at h
  split at h
  · simp at h
  · rename_i hsome
    refine revision_of_edit rfl h fun {user ws s} hends => ?_
    rw [ends_bind] at hends
    obtain ⟨w, s₁, hran, hends⟩ := hends
    obtain ⟨hfold, rfl⟩ := ends_ofExcept.1 hran
    split at hends
    · simp at hends
    · simp only [ends_bind, ends_query, ends_pure] at hends
      obtain ⟨_, _, ⟨-, rfl⟩, _, _, hloop, rfl, rfl⟩ := hends
      have hleft : ws.Regrouped moment.now w := Workspace.regrouped_of_foldlM
        (fun hout => Workspace.regrouped_of_changeMembers Members.steady_of_leave
          (leave_of_takeOut hout))
        (fun hnil => hsome (List.isEmpty_iff.2 hnil)) hfold
      have hsame : directory.store.tables.SameEntries s.1.tables :=
        keeps_of_forIn (fun p u _ _ _ => sameEntries_of_save) hloop ⟨rfl, rfl⟩
      exact ⟨⟨w, hleft, rfl⟩, hsame⟩

/-- Making someone else an owner rearranges the workspace. -/
theorem revision_of_transferOwnership {newOwner : UserId}
    (h : (transferOwnership id newOwner operator).perform moment directory =
      (.ok ws', directory')) :
    Revision id (·.Rearranged operator moment.now) directory.store.tables ws'
      directory'.store.tables := by
  refine revision_of_edit rfl h fun {user ws s} hends => ?_
  extract_lets settle at hends
  have hsettle : (settle ()).Ends moment.ids (Usecase.opening directory) ws' s := by
    split at hends
    · simp at hends
    · simp at hends
    · exact hends
  refine rearranged_of_settled hsettle fun {changed} hboth => ?_
  obtain ⟨between, hpromoted, hdemoted⟩ := bind_eq_ok.1 hboth
  have hreseat {w w' : Workspace} {member : UserId} {role : Role}
      (hupdate : w.updateUserRole moment.now member role = .ok w') : w.Regrouped moment.now w' :=
    Workspace.regrouped_of_changeMembers Members.steady_of_updateUserRole hupdate
  exact (hreseat hpromoted).trans (hreseat hdemoted)

/-- A change of the workspace itself gives it what was asked for. -/
theorem revision_of_update {change : WorkspaceChange}
    (h : (update id change operator).perform moment directory = (.ok ws', directory')) :
    Revision id (fun ws ws' => ws' = change.made operator moment.now ws) directory.store.tables ws'
      directory'.store.tables := by
  obtain ⟨user, ws, -, -, hshows, -, hws', -, htables⟩ := update_inversion h
  exact .intro hshows hws' ⟨rfl, rfl⟩ htables

end Workspaces

/-! ## Operations that return a workspace -/

namespace Operation

/-- The operation on workspaces that returns one. -/
def returned? (operator : Operator) : Operation → Option (Action Workspace)
  | createWorkspace name aliasName firstUser =>
    some do
      let (ws, _) ← Workspaces.create name aliasName firstUser operator
      return ws
  | updateWorkspace id change => some (Workspaces.update id change operator)
  | addUserMember id users => some (Workspaces.addUserMember id users operator)
  | addIntegrationMember id integration role =>
    some (Workspaces.addIntegrationMember id integration role operator)
  | updateUserMember id member role => some (Workspaces.updateUserMember id member role operator)
  | updateIntegrationMember id integration role =>
    some (Workspaces.updateIntegrationMember id integration role operator)
  | removeUserMember id member => some (Workspaces.removeUserMember id member operator)
  | removeMultipleUserMembers id members =>
    some (Workspaces.removeMultipleUserMembers id members operator)
  | removeIntegration id integration =>
    some (Workspaces.removeIntegration id integration operator)
  | removeIntegrations id integrations =>
    some (Workspaces.removeIntegrations id integrations operator)
  | transferOwnership id newOwner => some (Workspaces.transferOwnership id newOwner operator)
  | _ => none

/-- The workspace that an operation changes and files again. -/
def revised? (operation : Operation) : Option WorkspaceId :=
  operation.edited?.or (operation.leaving?.map Prod.fst)

/-- What an operation makes of the workspace that it changes. -/
def Makes (operator : Operator) (now : Instant) (operation : Operation) (ws ws' : Workspace) :
    Prop :=
  match operation with
  | updateWorkspace _ change => ws' = change.made operator now ws
  | _ => ws.Rearranged operator now ws'

variable {operator : Operator} {operation : Operation} {action : Action Workspace}
  {moment : Moment} {directory directory' : Directory} {id : WorkspaceId} {ws : Workspace}

open Workspaces in
/-- An operation that changes a workspace returns what it makes of it, and files that. -/
theorem revision_of_returned (hid : operation.revised? = some id)
    (hreturned : operation.returned? operator = some action)
    (h : action.perform moment directory = (.ok ws, directory')) :
    Revision id (operation.Makes operator moment.now) directory.store.tables ws
      directory'.store.tables := by
  cases operation with
  | updateWorkspace id' change =>
    obtain rfl := Option.some.inj hreturned
    obtain rfl := Option.some.inj hid
    exact revision_of_update h
  | addUserMember id' users =>
    obtain rfl := Option.some.inj hreturned
    obtain rfl := Option.some.inj hid
    exact revision_of_addUserMember h
  | addIntegrationMember id' integration role =>
    obtain rfl := Option.some.inj hreturned
    obtain rfl := Option.some.inj hid
    exact revision_of_changeMembers (fun hadd => .inl (Members.sameUsers_of_addIntegration hadd)) h
  | updateUserMember id' member role =>
    obtain rfl := Option.some.inj hreturned
    obtain rfl := Option.some.inj hid
    exact revision_of_changeMembers Members.steady_of_updateUserRole h
  | updateIntegrationMember id' integration role =>
    obtain rfl := Option.some.inj hreturned
    obtain rfl := Option.some.inj hid
    exact revision_of_changeMembers
      (fun hupdate => .inl (Members.sameUsers_of_updateIntegrationRole hupdate)) h
  | removeUserMember id' member | removeMultipleUserMembers id' members =>
    obtain rfl := Option.some.inj hreturned
    obtain rfl := Option.some.inj hid
    exact revision_of_removeMultipleUserMembers h
  | removeIntegration id' integration =>
    obtain rfl := Option.some.inj hreturned
    obtain rfl := Option.some.inj hid
    exact revision_of_changeMembers
      (fun hdelete => .inl (Members.sameUsers_of_deleteIntegration hdelete)) h
  | removeIntegrations id' integrations =>
    obtain rfl := Option.some.inj hreturned
    obtain rfl := Option.some.inj hid
    exact revision_of_changeMembers
      (fun hdelete => .inl (Members.sameUsers_of_deleteIntegrations hdelete)) h
  | transferOwnership id' newOwner =>
    obtain rfl := Option.some.inj hreturned
    obtain rfl := Option.some.inj hid
    exact revision_of_transferOwnership h
  | _ => exact nomatch hid

/-- An operation that returns a workspace has changed one that was there, or created it. -/
theorem cases_of_returned (hreturned : operation.returned? operator = some action)
    (h : action.perform moment directory = (.ok ws, directory')) :
    (∃ id, operation.revised? = some id ∧
      Revision id (operation.Makes operator moment.now) directory.store.tables ws
        directory'.store.tables) ∨
    ∃ name aliasName firstUser held, operation = createWorkspace name aliasName firstUser ∧
      (Workspaces.create name aliasName firstUser operator).perform moment directory =
        (.ok (ws, held), directory') := by
  cases hid : operation.revised? with
  | some id => exact .inl ⟨id, rfl, revision_of_returned hid hreturned h⟩
  | none =>
    cases operation with
    | createWorkspace name aliasName firstUser =>
      obtain rfl := Option.some.inj hreturned
      obtain ⟨⟨ws, held⟩, hcreate, rfl⟩ := Action.perform_bind_pure_eq_ok.1 h
      exact .inr ⟨name, aliasName, firstUser, held, rfl, hcreate⟩
    | updateWorkspace | addUserMember | addIntegrationMember | updateUserMember
      | updateIntegrationMember | removeUserMember | removeMultipleUserMembers | removeIntegration
      | removeIntegrations | transferOwnership => exact nomatch hid
    | _ => exact nomatch hreturned

end Operation

end Roster
