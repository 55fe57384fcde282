import Roster.Proofs.Callers
import Roster.Proofs.Reach
import Roster.Proofs.Rejections
import Roster.Proofs.Sequels

/-!
# Workspaces of others

Whoever does not own a workspace may leave it, and that is all they can do to its members, wherever
they send a request. It goes with them only if nobody else is in it. An owner who is disabled counts as
someone who does not own it.
-/

namespace Roster

/-- The home of every user is stored, and nobody else is in it. -/
def Tables.Housed (t : Tables) : Prop :=
  ∀ ⦃key user⦄, t.users.get? key = some user →
    ∃ home, t.workspaces.get? user.workspace = some home ∧ home.members.users.keys = [user.id]

instance (t : Tables) : Decidable t.Housed :=
  decidable_of_iff
    (∀ entry ∈ t.users.rows, (t.workspaces.get? entry.2.workspace).any fun home =>
      home.members.users.keys = [entry.2.id])
    (by
      simp only [Option.any_eq_true, decide_eq_true_eq]
      exact ⟨fun h _ _ huser => h _ (Table.get?_eq_some_iff.1 huser),
        fun h _ huser => h (Table.get?_eq_some_iff.2 huser)⟩)

/-- What a user who does not own a workspace may make of it: its members are as they were, or all but
the user, or it is gone with the user, who was alone in it. -/
inductive Workspace.Spared (user : UserId) (row : Workspace) : Option Workspace → Prop
  | kept {ws : Workspace} (hmembers : ws.members = row.members) : Spared user row (some ws)
  | left {ws : Workspace}
    (hmembers : ws.members = { row.members with users := row.members.users.erase user }) :
    Spared user row (some ws)
  | closed (halone : row.members.users.keys = [user]) : Spared user row none

/-- In intact tables every user is housed. -/
theorem Tables.Intact.housed {t : Tables} (h : t.Intact) : t.Housed := by
  intro key user huser
  obtain ⟨home, hhome, hof⟩ := h.homes huser
  obtain ⟨member, hsole, -⟩ := hof.sole
  exact ⟨home, hhome, by rw [Table.keys, hsole, List.map_singleton]⟩

/-! ## Members -/

namespace Members

variable {members members' : Members} {user : UserId} {leaving : List UserId}

/-- When nobody leaves but a user, the members are as they were, or all but this user. -/
theorem Left.of_self (h : members.Left leaving members') (hself : ∀ member ∈ leaving, member = user) :
    members' = members ∨ members' = { members with users := members.users.erase user } := by
  obtain ⟨hbefore, hafter, husers, hintegrations⟩ := h
  have hmembers (users : Table .user Member) (hsame : members'.users = users) :
      members' = { members with users := users } := by
    obtain ⟨users', integrations', fixed'⟩ := members'
    obtain ⟨users, integrations, fixed⟩ := members
    simp_all
  by_cases hleaves : user ∈ leaving
  · refine .inr (hmembers _ (Table.ext_get? fun other => ?_))
    rw [husers, Table.get?_erase]
    by_cases hother : user = other
    · rw [if_pos (hother ▸ hleaves), if_pos hother]
    · rw [if_neg fun hmem => hother (hself other hmem).symm, if_neg hother]
  · refine .inl (hmembers _ (Table.ext_get? fun other => ?_))
    rw [husers, if_neg]
    intro hmem
    exact hleaves (hself other hmem ▸ hmem)

/-- A user who is one of one is the only one. -/
theorem keys_of_count (hmember : members.users.contains user = true) (hone : members.count = 1) :
    members.users.keys = [user] := by
  obtain ⟨member, hmember⟩ := Table.contains_iff.1 hmember
  have hlisted := Table.get?_eq_some_iff.1 hmember
  obtain ⟨entry, hrows⟩ := List.length_eq_one_iff.1 hone
  rw [hrows, List.mem_singleton] at hlisted
  rw [Table.keys, hrows, ← hlisted, List.map_singleton]

end Members

namespace Workspace.Spared

variable {user other : UserId} {row ws : Workspace} {member : Member}

/-- Whoever else is in a workspace that is spared has the same membership as before. -/
theorem get?_of_ne (h : row.Spared user (some ws)) (hother : other ≠ user) :
    ws.members.users.get? other = row.members.users.get? other := by
  cases h with
  | kept hmembers => rw [hmembers]
  | left hmembers => rw [hmembers, Table.get?_erase, if_neg hother.symm]

/-- Nobody joins a workspace that is spared or gets another role there. -/
theorem of_get? (h : row.Spared user (some ws))
    (hmember : ws.members.users.get? other = some member) :
    row.members.users.get? other = some member := by
  cases h with
  | kept hmembers =>
    rw [← hmembers]
    exact hmember
  | left hmembers =>
    rw [hmembers] at hmember
    exact (Table.get?_erase_eq_some.1 hmember).2

end Workspace.Spared

/-! ## Requests -/

/-- An operation of a user whose operator has just been looked up spares every workspace that they do
not own. -/
theorem Operation.Sequel.spared {operation : Operation} {t : Tables} {id : WorkspaceId}
    {row : Workspace} {after : Option Workspace} {user : UserId} {workspaces : List Workspace}
    {defaultPolicy : Option PolicyId}
    (h : Sequel (.ofWorkspaces user workspaces defaultPolicy) t operation id row after)
    (hfiled : t.Filed) (hhoused : t.Housed)
    (hanswer : (Query.workspacesOf .none user).answer t = .ok workspaces)
    (hrow : t.workspaces.get? id = some row) (hnot : ¬ t.Owns user id) : row.Spared user after := by
  have howning {P : Prop} (howning : id ∈ Operator.bucket user workspaces .owner) : P :=
    absurd ((Accounts.mem_bucket hfiled hanswer).1 howning) hnot
  cases h with
  | kept => exact .kept rfl
  | edited _ _ hlisted => exact howning hlisted
  | removed _ hlisted => exact howning hlisted
  | departed _ hactor hreadable _ hleft hwish =>
    obtain rfl := Option.some.inj hactor
    -- The user is not disabled in the workspace, so an owner's role would make them own it.
    have hreach : id ∈ (Operator.ofWorkspaces user workspaces defaultPolicy).reach .reader :=
      hreadable
    obtain ⟨member, hseats, henabled, -⟩ :=
      (Accounts.mem_reach_ofWorkspaces hfiled hanswer).1 hreach
    have hself := hwish.resolve_right fun howner => by
      rw [Members.userRole?, (Tables.seats_iff hrow).1 hseats] at howner
      exact hnot ⟨member, hseats, Option.some.inj howner, henabled⟩
    obtain hsame | hleft := hleft.of_self hself
    · exact .kept hsame
    · exact .left hleft
  | renamed _ _ _ _ hrest =>
    rw [hrest]
    exact .kept rfl
  | @parted me account _ _ hactor huser hfate =>
    obtain rfl := Option.some.inj hactor
    cases hfate with
    | spared => exact .kept rfl
    | left _ _ _ hleft =>
      obtain hsame | hleft := hleft.of_self fun _ => List.mem_singleton.1
      · exact .kept hsame
      · exact .left hleft
    | closed hmember hreason =>
      refine .closed ?_
      obtain hhome | hone := hreason
      · obtain ⟨home, hstored, halone⟩ := hhoused huser
        rw [← hhome, hfiled.workspaces hrow, hrow] at hstored
        obtain rfl := Option.some.inj hstored
        rw [halone, hfiled.users huser]
      · exact Members.keys_of_count hmember hone

namespace Http

/-- Whoever sends a request, wherever it is sent, spares the workspaces that they do not own: nobody
else loses or changes their membership, and nobody joins. -/
theorem spared_of_answer (service : Service) (request : Request) (moment : Moment)
    {directory directory' : Directory} {caller : Caller} {user : User} {id : WorkspaceId}
    {row : Workspace} (hfiled : directory.store.tables.Filed)
    (hhoused : directory.store.tables.Housed)
    (hcaller : service.authenticate request.authorization moment directory = .ok caller directory')
    (huser : caller.user = some user) (hrow : directory.store.tables.workspaces.get? id = some row)
    (hnot : ¬ directory.store.tables.Owns user.id id) :
    let after := (service.answer request moment directory).2.store.tables.workspaces.get? id
    row.Spared user.id after ∧ ∀ ws, after = some ws → ∀ other,
      (other ≠ user.id → ws.members.users.get? other = row.members.users.get? other) ∧
      ∀ member, ws.members.users.get? other = some member →
        row.members.users.get? other = some member := by
  have hspared : row.Spared user.id
      ((service.answer request moment directory).2.store.tables.workspaces.get? id) := by
    obtain hsame | ⟨caller₁, hcaller₁, hdeed⟩ := answer_deed hfiled
    · rw [hsame, hrow]
      exact .kept rfl
    · cases hcaller₁.symm.trans hcaller
      obtain ⟨-, ⟨hnobody, -⟩ | ⟨other, workspaces, hother, hanswer, hoperator⟩⟩ :=
        authenticate_eq_ok hcaller
      · exact nomatch hnobody.symm.trans huser
      obtain rfl := Option.some.inj (hother.symm.trans huser)
      cases hdeed with
      | nothing hsame =>
        rw [hsame, hrow]
        exact .kept rfl
      | governing _ hsteps =>
        rw [(Operation.same_of_governing hsteps).1, hrow]
        exact .kept rfl
      | operation _ heffect =>
        rw [hoperator] at heffect
        exact (heffect.sequel hfiled hrow).spared hfiled hhoused hanswer hrow hnot
  refine ⟨hspared, fun ws hws other => ?_⟩
  rw [hws] at hspared
  exact ⟨hspared.get?_of_ne, fun member => hspared.of_get?⟩

/-! ### A member who leaves -/

namespace Leaving

open TwoGrants Request.SuspendedTeam

/-- Olga owns the team, and bob is a writer there. -/
def team : Workspace :=
  Request.SuspendedTeam.workspace "team" "Team"
    { users := (Table.empty.insert ⟨"olga"⟩ (.new .owner ⟨"olga"⟩)).insert bob.id
        (.new .writer ⟨"olga"⟩)
      integrations := ∅
      fixed := false }

/-- Bob and olga with their homes and the team, in which bob is a clerk. -/
def tables : Tables where
  workspaces := ((Table.empty.insert ⟨"home"⟩ (TwoGrants.workspace ⟨"home"⟩ true)).insert
    ⟨"olga-home"⟩ (home "olga")).insert ⟨"team"⟩ team
  users := (Table.empty.insert bob.id bob).insert ⟨"olga"⟩ (account "olga")
  roles := Table.empty.insert ⟨"clerk"⟩ ⟨⟨"clerk"⟩, "clerk"⟩
  permittables := Table.empty.insert ⟨"holder"⟩
    { id := ⟨"holder"⟩, user := bob.id, roles := [], bindings := [⟨⟨"team"⟩, ⟨"clerk"⟩⟩] }

/-- A store with these tables. -/
def directory : Directory where
  store := { label := 0, tables, file := none, attached := false }

/-- Bob wants to leave the team. -/
def request : Request where
  method := "DELETE"
  path := "/api/v1/workspaces/team/members/bob"
  authorization := some ("Bearer " ++ token)
  contentType := none
  body := none

/-- The token stands for bob, who owns his home and may write to the team. -/
theorem authenticate_leaving :
    service.authenticate request.authorization moment directory =
      .ok (callerWith { user := bob.id, writable := [⟨"team"⟩], owning := [⟨"home"⟩] }) directory :=
  authenticate_token rfl rfl

/-- Bob does not own the team. -/
theorem not_owns_team : ¬ tables.Owns bob.id ⟨"team"⟩ := by
  rintro ⟨member, hseats, hrole, -⟩
  have hwriter : team.members.users.get? bob.id = some (.new .writer ⟨"olga"⟩) := by decide
  have hrow : tables.workspaces.get? ⟨"team"⟩ = some team := by decide
  rw [Tables.seats_iff hrow, hwriter] at hseats
  obtain rfl := Option.some.inj hseats
  exact nomatch hrole

/-- Whatever comes of it, the team is spared, and olga remains an owner if it does. -/
theorem spared_team :
    let after := (service.answer request moment directory).2.store.tables.workspaces.get? ⟨"team"⟩
    team.Spared ⟨"bob"⟩ after ∧
      ∀ ws, after = some ws → ws.members.users.get? ⟨"olga"⟩ = some (.new .owner ⟨"olga"⟩) := by
  have hrow : directory.store.tables.workspaces.get? ⟨"team"⟩ = some team := by decide
  have hspared := spared_of_answer service request moment (by decide) (by decide)
    authenticate_leaving rfl hrow not_owns_team
  refine ⟨hspared.1, fun ws hws => ?_⟩
  rw [(hspared.2 ws hws ⟨"olga"⟩).1 (by decide)]
  decide

end Leaving

end Http

end Roster
