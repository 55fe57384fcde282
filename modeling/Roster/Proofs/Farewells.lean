import Roster.Proofs.Outsiders
import Roster.Proofs.Removals

/-!
# When users can go for good

Users can go for good as long as they leave nobody behind in a workspace that only they own. What is
there afterwards is then known row by row: the workspaces in which they were alone are gone, they are
taken out of the others, and nothing points to them or to what is gone.
-/

namespace Roster

/-- One user is an owner and nobody else is. -/
def Members.SolelyOwnedBy (user : UserId) (members : Members) : Prop :=
  ∀ other, members.userRole? other = some .owner ↔ other = user

/-- A workspace that a user has left; its name has lost its blank ends as it does when it is taken
from storage. -/
def Workspace.leftBy (user : UserId) (now : Time.Instant) (ws : Workspace) : Workspace :=
  { ws with
    name := titled ws.name
    members := ws.members.without [user]
    updatedAt := now }

/-- The workspaces that are there at first and not afterwards. -/
def Tables.closed (t t' : Tables) : List WorkspaceId :=
  t.workspaces.keys.filter fun id => !t'.workspaces.contains id

/-- The tables lose a user, and what is only theirs. -/
structure Tables.Loses (me : UserId) (now : Time.Instant) (t t' : Tables) : Prop where
  users : t'.users = t.users.erase me
  roles : t'.roles = t.roles
  /-- The user is a member of no workspace. -/
  nowhere : ∀ {id ws}, t'.workspaces.get? id = some ws → ws.members.users.contains me = false
  /-- A workspace is gone exactly if the user was its only member. -/
  gone : ∀ {id row}, t.workspaces.get? id = some row →
    (t'.workspaces.get? id = none ↔ row.members.users.keys = [me])
  /-- Any other workspace of the user keeps the other members and the integrations. -/
  left : ∀ {id row}, t.workspaces.get? id = some row → row.members.users.contains me = true →
    row.members.users.keys ≠ [me] → t'.workspaces.get? id = some (row.leftBy me now)
  /-- A workspace without the user stays as it is. -/
  spared : ∀ {id row}, t.workspaces.get? id = some row → row.members.users.contains me = false →
    t'.workspaces.get? id = some row
  unbegun : ∀ {id}, t.workspaces.get? id = none → t'.workspaces.get? id = none
  /-- The permittable of the user is gone, and the others have lost what was bound to the workspaces
  that are gone. -/
  permittables : ∀ key, t'.permittables.get? key = (t.permittables.get? key).bind fun p =>
    if p.user = me then none else some (p.unbind (t.closed t'))

/-! ## Members and what is bound -/

namespace Members

variable {members : Members} {user : UserId}

/-- The only owner is the one user who is an owner. -/
theorem isOnlyOwner_iff : members.isOnlyOwner user = true ↔ members.SolelyOwnedBy user := by
  constructor
  · intro honly other
    rw [← mem_owners_iff, show members.usersByRole .owner = [user] from of_decide_eq_true honly,
      List.mem_singleton]
  · intro hsole
    by_contra hother
    have howner : user ∈ members.usersByRole .owner := mem_owners_iff.2 ((hsole user).2 rfl)
    obtain ⟨other, hmem, hne⟩ :=
      exists_other_owner (Bool.eq_false_iff.2 hother) (List.ne_nil_of_mem howner)
    exact hne ((hsole other).1 (mem_owners_iff.1 hmem))

/-- Who is the only owner is a member. -/
theorem SolelyOwnedBy.contains (h : members.SolelyOwnedBy user) :
    members.users.contains user = true := by
  obtain ⟨member, hmember, -⟩ := Option.map_eq_some_iff.1 ((h user).2 rfl)
  exact Table.contains_iff.2 ⟨member, hmember⟩

/-- Who is the only member is a member. -/
theorem contains_of_keys (h : members.users.keys = [user]) : members.users.contains user = true := by
  have hmem : user ∈ members.users.keys := h ▸ List.mem_singleton_self user
  obtain ⟨⟨_, member⟩, hrow, rfl⟩ := List.mem_map.1 hmem
  exact Table.contains_iff.2 ⟨member, Table.get?_eq_some_iff.2 hrow⟩

/-- A member is the only one exactly if there is one. -/
theorem count_eq_one_iff (hmember : members.users.contains user = true) :
    members.count = 1 ↔ members.users.keys = [user] := by
  refine ⟨keys_of_count hmember, fun hkeys => ?_⟩
  have hlength := congrArg List.length hkeys
  rwa [Table.keys, List.length_map] at hlength

end Members

namespace Permittable

/-- What is unbound from a permittable is a matter of which workspaces are listed. -/
theorem unbind_congr (p : Permittable) {workspaces workspaces' : List WorkspaceId}
    (h : ∀ id, id ∈ workspaces ↔ id ∈ workspaces') : p.unbind workspaces = p.unbind workspaces' := by
  simp only [unbind, h]

/-- A permittable without its bindings to some workspaces, and whether it had any of them. -/
def removeWorkspaces (workspaces : List WorkspaceId) (p : Permittable) : Permittable × Bool :=
  workspaces.foldl
    (fun (p, changed) id =>
      let (rest, dropped) := p.removeWorkspace id
      (rest, changed || dropped))
    (p, false)

/-- Dropping the bindings to some workspaces is unbinding them. -/
theorem removeWorkspaces_fst (workspaces : List WorkspaceId) (p : Permittable) :
    (p.removeWorkspaces workspaces).1 = p.unbind workspaces :=
  (p.foldl_removeWorkspace workspaces false).1

end Permittable

/-- A workspace is closed exactly if it is there at first and not afterwards. -/
theorem Tables.mem_closed {t t' : Tables} {id : WorkspaceId} :
    id ∈ t.closed t' ↔ t.workspaces.contains id = true ∧ t'.workspaces.get? id = none := by
  have hkeys : id ∈ t.workspaces.keys ↔ t.workspaces.contains id = true := by
    simp [Table.keys, Table.contains_iff, Table.get?_eq_some_iff]
  rw [closed, List.mem_filter, hkeys, Bool.not_eq_true', Table.contains_eq_false_iff]

/-- Users are alone at home. -/
theorem Tables.Housed.alone {t : Tables} (h : t.Housed) (hfiled : t.Filed) {me : UserId}
    {user : User} (huser : t.users.get? me = some user) {row : Workspace}
    (hrow : t.workspaces.get? row.id = some row) (hid : row.id = user.workspace) :
    row.members.users.keys = [me] := by
  obtain ⟨home, hhome, hkeys⟩ := h huser
  rw [← hid, hrow] at hhome
  rw [Option.some.inj hhome, hkeys, hfiled.users huser]

/-- Stripping the bindings to some workspaces comes to an end if no user has two permittables. -/
theorem exists_ends_stripBindings (ids : Nat → String) {base : Tables} (hkeyed : base.Keyed)
    {s : Draft × Nat} (hsame : s.1.tables.permittables = base.permittables)
    (workspaces : List WorkspaceId) :
    ∃ s', (stripBindings workspaces).Ends ids s () s' := by
  unfold stripBindings
  cases workspaces.isEmpty with
  | true =>
    refine ⟨s, ?_⟩
    rw [if_pos rfl]
    exact Program.ends_pure.2 ⟨rfl, rfl⟩
  | false =>
    have hitems : ∀ p ∈ s.1.tables.permittables.values, base.permittables.get? p.id = some p := by
      intro p hp
      obtain ⟨key, hkey⟩ := Table.mem_values_iff.1 hp
      rw [hsame] at hkey
      rw [hkeyed.permittables hkey, hkey]
    have hresembles : base.Resembles s.1.tables := fun hq => ⟨_, hsame ▸ hq, rfl, rfl⟩
    obtain ⟨s', hends⟩ := @Program.exists_ends_forIn ids s base hkeyed (·.removeWorkspaces workspaces)
      (fun p => by rw [p.removeWorkspaces_fst]; rfl) (fun p => by rw [p.removeWorkspaces_fst]; rfl)
      _ hitems hresembles
    refine ⟨s', ?_⟩
    rw [if_neg Bool.false_ne_true]
    simp only [Program.ends_bind, Program.ends_query, Program.ends_pure]
    exact ⟨_, s, ⟨rfl, rfl⟩, _, s', hends, trivial, rfl⟩

namespace Accounts

open Program

variable {operator : Operator} {moment : Moment} {directory directory' : Directory} {me : UserId}
  {home : WorkspaceId} {now : Time.Instant} {ws row : Workspace} {user : User}

/-! ## Whether there is a farewell -/

/-- The home of a user goes with them, and so does a workspace of which they are the only member. -/
theorem farewell_eq_goes (h : ws.id = home ∨ ws.members.count = 1) :
    Accounts.farewell me home now ws = .ok (.goes ws.id) := by
  unfold Accounts.farewell
  simp [h]

/-- There is a farewell for a workspace exactly if it is the home of the user, they are its only
member, or they are not its only owner. -/
theorem exists_farewell_iff (hfit : ws.Restorable) (hmember : ws.members.users.contains me = true) :
    (∃ f, Accounts.farewell me home now ws = .ok f) ↔
      (ws.id = home ∨ ws.members.count = 1) ∨ ws.members.isOnlyOwner me = false := by
  constructor
  · rintro ⟨f, hf⟩
    obtain ⟨-, hreason⟩ | ⟨_, -, -, hother⟩ := farewell_eq_ok hf
    · exact .inl hreason
    · exact .inr hother
  · intro h
    by_cases hgoes : ws.id = home ∨ ws.members.count = 1
    · exact ⟨_, farewell_eq_goes hgoes⟩
    · -- A personal workspace has one member only.
      have hteam : ws.members.fixed = false := by
        by_contra hfixed
        obtain ⟨_, _, hrows, -⟩ := Members.soleOwner_iff.1 (hfit.2 (Bool.not_eq_false _ ▸ hfixed))
        exact hgoes (.inr (by simp [Members.count, Table.size, hrows]))
      have hleave := (@Workspace.leave_eq_ok ws _ now me).2 ⟨hteam, hmember, rfl⟩
      refine ⟨.stays { ws with members := ws.members.without [me], updatedAt := now }, ?_⟩
      unfold Accounts.farewell
      simp [hgoes, h.resolve_left hgoes, hleave]

/-- A user who is there can be taken away together with their permittable, if there is one. -/
theorem exists_ends_removal (ids : Nat → String) {s : Draft × Nat}
    (hown : ∀ {key p}, s.1.tables.permittables.get? key = some p → p.id = key)
    (huser : s.1.tables.users.contains me = true) :
    ∃ s', (do
      if let some p ← Program.queryOptional (.permittableOf me) then
        Program.command (.removePermittable p.id)
      Program.command (.removeUser me) : Program Unit).Ends ids s () s' := by
  have hquery : optional ((Query.permittableOf me).answer s.1.tables) =
      .ok (s.1.tables.permittables.values.find? (·.user = me)) := optional_found _ _
  cases hfound : s.1.tables.permittables.values.find? (·.user = me) with
  | none =>
    refine ⟨(s.1.dropUser me, s.2), ends_bind.2 ⟨none, s, ?_, ?_⟩⟩
    · exact ends_queryOptional.2 ⟨hquery.trans (congrArg _ hfound), rfl⟩
    · exact ends_command.2 ⟨_, Command.apply_removeUser.2 ⟨huser, rfl⟩, rfl⟩
  | some p =>
    obtain ⟨key, hkey, -⟩ := Table.get?_of_find?_values hfound
    have hthere : s.1.tables.permittables.contains p.id = true :=
      Table.contains_iff.2 ⟨p, by rw [hown hkey, hkey]⟩
    refine ⟨((s.1.dropPermittable p.id).dropUser me, s.2), ends_bind.2 ⟨some p, s, ?_, ?_⟩⟩
    · exact ends_queryOptional.2 ⟨hquery.trans (congrArg _ hfound), rfl⟩
    · exact ends_bind.2 ⟨(), (s.1.dropPermittable p.id, s.2),
        ends_command.2 ⟨_, Command.apply_removePermittable.2 ⟨hthere, rfl⟩, rfl⟩,
        ends_command.2 ⟨_, Command.apply_removeUser.2 ⟨huser, rfl⟩, rfl⟩⟩

/-- A user is removed if there is a farewell for each of their workspaces, no user has two
permittables and the snapshot can be written. -/
theorem exists_removeMe (hkeyed : directory.store.tables.Keyed)
    (hwritable : directory.store.Writable moment) (hactor : operator.user = some me)
    (huser : directory.store.tables.users.get? me = some user) {workspaces : List Workspace}
    (hanswer : (Query.workspacesOf .none me).answer directory.store.tables = .ok workspaces)
    (hfarewell : ∀ ws ∈ workspaces, ∃ f, farewell me user.workspace moment.now ws = .ok f) :
    ∃ directory', (removeMe operator).perform moment directory = (.ok (), directory') := by
  obtain ⟨farewells, hfarewells⟩ := exists_mapM_eq_ok hfarewell
  have hpartings := partings_of_mapM hkeyed.filed hanswer hfarewells
  let parted : Draft := (going farewells).foldl Command.dropIfThere
    ((staying farewells).foldl Draft.putWorkspace (Usecase.opening directory).1)
  have hparted : parted.tables = { directory.store.tables with
      workspaces := partedWorkspaces farewells directory.store.tables.workspaces } :=
    tables_of_farewells farewells (Usecase.opening directory).1
  have hfiled : parted.tables.Filed :=
    hparted ▸ hkeyed.filed.withWorkspaces (hpartings.filed hkeyed.filed)
  obtain ⟨stripped, hstrip⟩ := exists_ends_stripBindings moment.ids hkeyed
    (s := (parted, directory.drawn)) (by rw [hparted]) (going farewells)
  obtain ⟨-, hrewrites⟩ := ends_stripBindings hfiled hstrip
  have hthere : stripped.1.tables.users.contains me = true := by
    rw [hrewrites.users, hparted]
    exact Table.contains_iff.2 ⟨user, huser⟩
  have hown {key : PermittableId} {p : Permittable}
      (hp : stripped.1.tables.permittables.get? key = some p) : p.id = key := by
    rw [hrewrites.permittables, Option.map_eq_some_iff] at hp
    obtain ⟨before, hbefore, rfl⟩ := hp
    exact (before.unbind_id _).trans (hfiled.permittables hbefore)
  obtain ⟨last, hlast⟩ := exists_ends_removal moment.ids hown hthere
  refine ⟨{ store := directory.store.holding last.1.tables, drawn := last.2 }, ?_⟩
  simp only [removeMe, Action.perform_bind_eq_ok, Action.perform_ofExcept, Action.perform_now,
    Prod.mk.injEq, ok_eq_ok_comm, Operator.actor_eq_ok,
    Usecase.perform_run_eq_ok (rfl : ({ transactional := true } : Usecase).transactional = true)]
  refine ⟨me, _, ⟨hactor, rfl⟩, _, _, ⟨rfl, rfl⟩, rfl, last.1, last.2, _, ?_,
    Store.commit_of_writable hwritable _, rfl⟩
  simp only [ends_bind, ends_query, ends_ofExcept, ends_command,
    Command.apply_saveWorkspaces, Command.apply_removeWorkspaces, Query.answer_user]
  exact ⟨user, _, ⟨huser, rfl⟩, workspaces, _, ⟨hanswer, rfl⟩, farewells, _, ⟨hfarewells, rfl⟩, (), _,
    ⟨_, rfl, rfl⟩, (), _, ⟨_, rfl, rfl⟩, (), stripped, hstrip, ends_bind.1 hlast⟩

/-- A user can part with a workspace of theirs exactly if it has no other members or they are not its
only owner, provided that they are alone at home. -/
theorem exists_parting_iff (hfit : row.Restorable) (hmember : row.members.users.contains me = true)
    (hhome : row.id = home → row.members.users.keys = [me]) :
    (∃ f, Parting me home now row f) ↔
      (1 < row.members.count → ¬ row.members.SolelyOwnedBy me) := by
  have hparting : (∃ f, Parting me home now row f) ↔
      ∃ f, Accounts.farewell me home now { row with name := Workspace.titled row.name } = .ok f := by
    simp only [Parting, Workspace.restore_eq_ok, hmember, true_and, hfit, exists_eq_left]
  -- The name does not matter, and unifying it with its tidied form would be costly.
  generalize Workspace.titled row.name = name at hparting
  have hreasons : (∃ f, Accounts.farewell me home now { row with name } = .ok f) ↔
      (row.id = home ∨ row.members.count = 1) ∨ row.members.isOnlyOwner me = false :=
    @exists_farewell_iff me home now { row with name } hfit hmember
  have hpos : 0 < row.members.count := by
    obtain ⟨_, hrow⟩ := Table.contains_iff.1 hmember
    exact List.length_pos_of_mem (Table.get?_eq_some_iff.1 hrow)
  rw [hparting, hreasons, ← Members.isOnlyOwner_iff, Bool.not_eq_true]
  constructor
  · rintro ((hid | hone) | hother) hmany
    · exact absurd ((Members.count_eq_one_iff hmember).2 (hhome hid)) hmany.ne'
    · exact absurd hone hmany.ne'
    · exact hother
  · intro hother
    by_cases hone : row.members.count = 1
    · exact .inl (.inr hone)
    · exact .inr (hother (by omega))

/-! ## What is left behind -/

/-- Nothing is left of a workspace in which a user was alone, and any other one is left to the other
members, provided that the user is alone at home. -/
theorem Parting.left?_eq {f : Farewell} (h : Parting me home now row f)
    (hhome : row.id = home → row.members.users.keys = [me]) :
    f.left? = if row.members.users.keys = [me] then none else some (row.leftBy me now) := by
  obtain ⟨hmember, ws, hrestore, hfarewell⟩ := h
  obtain ⟨-, rfl⟩ := Workspace.restore_eq_ok.1 hrestore
  have hcount := Members.count_eq_one_iff hmember
  split
  · rename_i halone
    have hgoes := hfarewell.symm.trans (farewell_eq_goes (.inr (hcount.2 halone)))
    rw [Except.ok.inj hgoes]
    rfl
  · rename_i hothers
    obtain ⟨-, hreason⟩ | ⟨ws', rfl, hleave, -⟩ := farewell_eq_ok hfarewell
    · exact absurd (hreason.elim hhome hcount.1) hothers
    · obtain ⟨-, -, rfl⟩ := Workspace.leave_eq_ok.1 hleave
      simp only [Farewell.left?, Workspace.leftBy]

/-- A user who is removed is lost to the tables. -/
theorem loses_of_removeMe (hkeyed : directory.store.tables.Keyed)
    (hhoused : directory.store.tables.Housed) (hactor : operator.user = some me)
    (h : (removeMe operator).perform moment directory = (.ok (), directory')) :
    directory.store.tables.Loses me moment.now directory'.store.tables := by
  obtain ⟨me', user, farewells, hactor', huser, hpartings, hworkspaces, husers, hroles,
    hpermittables⟩ := removeMe_inversion hkeyed.filed h
  obtain rfl := Option.some.inj (hactor.symm.trans hactor')
  have hunbegun {id : WorkspaceId} (hnone : directory.store.tables.workspaces.get? id = none) :
      directory'.store.tables.workspaces.get? id = none := by
    rw [hworkspaces]
    exact hpartings.get?_of_none hnone
  have hspared {id : WorkspaceId} {row : Workspace}
      (hrow : directory.store.tables.workspaces.get? id = some row)
      (hothers : row.members.users.contains me = false) :
      directory'.store.tables.workspaces.get? id = some row := by
    obtain rfl := hkeyed.workspaces hrow
    rw [hworkspaces, hpartings.get?_of_others hrow hothers]
  have hparted {id : WorkspaceId} {row : Workspace}
      (hrow : directory.store.tables.workspaces.get? id = some row)
      (hmember : row.members.users.contains me = true) :
      directory'.store.tables.workspaces.get? id =
        if row.members.users.keys = [me] then none else some (row.leftBy me moment.now) := by
    obtain rfl := hkeyed.workspaces hrow
    obtain ⟨f, hf, hparting⟩ := hpartings.all hrow hmember
    rw [hworkspaces, hpartings.get?_of_mem hrow hf hparting,
      hparting.left?_eq (hhoused.alone hkeyed.filed huser hrow)]
  have hclosed (id : WorkspaceId) : id ∈ going farewells ↔
      id ∈ directory.store.tables.closed directory'.store.tables := by
    rw [Tables.mem_closed, hworkspaces, hpartings.mem_going_iff]
  refine
    { users := husers
      roles := hroles
      nowhere := fun {id ws} hws => ?_
      gone := fun {id row} hrow => ?_
      left := fun hrow hmember hothers => by rw [hparted hrow hmember, if_neg hothers]
      spared := hspared
      unbegun := hunbegun
      permittables := fun key => ?_ }
  · cases hrow : directory.store.tables.workspaces.get? id with
    | none => exact nomatch hws.symm.trans (hunbegun hrow)
    | some row =>
      cases hmember : row.members.users.contains me with
      | false =>
        obtain rfl := Option.some.inj (hws.symm.trans (hspared hrow hmember))
        exact hmember
      | true =>
        rw [hparted hrow hmember] at hws
        split at hws
        · exact nomatch hws
        · rw [← Option.some.inj hws]
          exact Bool.eq_false_iff.2 fun hstill =>
            ((row.members.contains_without [me] me).1 hstill).1 (List.mem_singleton_self me)
  · cases hmember : row.members.users.contains me with
    | false =>
      rw [hspared hrow hmember]
      refine iff_of_false (Option.some_ne_none row) fun halone => ?_
      rw [Members.contains_of_keys halone] at hmember
      exact nomatch hmember
    | true =>
      rw [hparted hrow hmember]
      split <;> simp [*]
  · rw [hpermittables hkeyed key]
    simp only [Permittable.unbind_congr _ hclosed]

/-- Where users are alone at home, no user has two permittables, workspaces can be restored and the
snapshot can be written, a user is removed exactly if they are there and are the only owner of no
workspace with other members; and then the tables lose them. -/
theorem removes_iff (moment : Moment) (directory : Directory)
    (hkeyed : directory.store.tables.Keyed)
    (hrestores : ∀ {id ws}, directory.store.tables.workspaces.get? id = some ws →
      ∃ restored, ws.restore = .ok restored)
    (hhoused : directory.store.tables.Housed) (hwritable : directory.store.Writable moment)
    (hactor : operator.user = some me) :
    ((∃ directory', (removeMe operator).perform moment directory = (.ok (), directory')) ↔
      directory.store.tables.users.contains me = true ∧
        ∀ id row, directory.store.tables.workspaces.get? id = some row → 1 < row.members.count →
          ¬ row.members.SolelyOwnedBy me) ∧
    ∀ directory', (removeMe operator).perform moment directory = (.ok (), directory') →
      directory.store.tables.Loses me moment.now directory'.store.tables := by
  refine ⟨⟨?_, ?_⟩, fun directory' => loses_of_removeMe hkeyed hhoused hactor⟩
  · rintro ⟨directory', h⟩
    obtain ⟨me', user, farewells, hactor', huser, hpartings, -⟩ := removeMe_inversion hkeyed.filed h
    obtain rfl := Option.some.inj (hactor.symm.trans hactor')
    refine ⟨Table.contains_iff.2 ⟨user, huser⟩, fun id row hrow hmany hsole => ?_⟩
    obtain rfl := hkeyed.workspaces hrow
    obtain ⟨f, -, hparting⟩ := hpartings.all hrow hsole.contains
    exact (exists_parting_iff (Workspace.exists_restore_iff.1 (hrestores hrow)) hsole.contains
      (hhoused.alone hkeyed.filed huser hrow)).1 ⟨f, hparting⟩ hmany hsole
  · rintro ⟨hthere, hleaves⟩
    obtain ⟨user, huser⟩ := Table.contains_iff.1 hthere
    obtain ⟨workspaces, hanswer⟩ := exists_answer_workspacesOf me hrestores
    refine exists_removeMe hkeyed hwritable hactor huser hanswer fun ws hws => ?_
    obtain ⟨row, hlisted, hrestore⟩ := (mapM_eq_ok (hanswer : List.mapM _ _ = _)).2 ws hws
    simp only [List.mem_filter, Bool.and_eq_true] at hlisted
    obtain ⟨hvalue, hmember, -⟩ := hlisted
    obtain ⟨id, hrow⟩ := Table.mem_values_iff.1 hvalue
    obtain rfl := hkeyed.workspaces hrow
    obtain ⟨f, -, ws', hrestore', hf⟩ := (exists_parting_iff
      (Workspace.exists_restore_iff.1 ⟨ws, hrestore⟩) hmember
      (hhoused.alone hkeyed.filed huser hrow)).2 (hleaves _ row hrow)
    obtain rfl := Except.ok.inj (hrestore.symm.trans hrestore')
    exact ⟨f, hf⟩

end Accounts

/-! ### A member with a den of their own -/

namespace Accounts.Leaver

/-- A workspace with some members. -/
def workspace (name : String) (members : Members) : Workspace where
  id := ⟨name⟩
  name := name
  aliasName := ""
  email := ""
  profile := {}
  members
  policy := none
  updatedAt := .epoch

/-- An account. -/
def user (name home : String) : User where
  id := ⟨name⟩
  name := home
  email := name ++ "@example.com"
  identities := []
  workspace := ⟨home⟩
  profile := {}
  updatedAt := .epoch

/-- Olga owns the crew, and dave writes for it. -/
def crew : Workspace :=
  workspace "crew"
    { users := (Table.empty.insert ⟨"olga"⟩ (.new .owner ⟨"olga"⟩)).insert ⟨"dave"⟩
        (.new .writer ⟨"olga"⟩)
      integrations := ∅
      fixed := false }

/-- What olga holds in the crew and, as a guest, in the den. -/
def grants : Permittable where
  id := ⟨"grants"⟩
  user := ⟨"olga"⟩
  roles := []
  bindings := [⟨⟨"crew"⟩, ⟨"cook"⟩⟩, ⟨⟨"den"⟩, ⟨"guest"⟩⟩]

/-- Olga and dave at home, their crew, and the den in which dave is alone. -/
def directory : Directory where
  store :=
    { tables :=
        { workspaces := (((Table.empty.insert ⟨"crew"⟩ crew).insert ⟨"den"⟩
            (workspace "den" (.ofOwner ⟨"dave"⟩ false))).insert ⟨"Olga"⟩
            (workspace "Olga" (.ofOwner ⟨"olga"⟩ true))).insert ⟨"Dave"⟩
            (workspace "Dave" (.ofOwner ⟨"dave"⟩ true))
          users := (Table.empty.insert ⟨"olga"⟩ (user "olga" "Olga")).insert ⟨"dave"⟩
            (user "dave" "Dave")
          permittables := Table.empty.insert grants.id grants }
      file := none
      attached := false }

/-- All workspaces are restored as they are. -/
theorem exists_restore {id : WorkspaceId} {ws : Workspace}
    (h : directory.store.tables.workspaces.get? id = some ws) :
    ∃ restored, ws.restore = .ok restored := by
  have hall : ∀ entry ∈ directory.store.tables.workspaces.rows,
      entry.2.restore = .ok entry.2 := by decide +kernel
  exact ⟨ws, hall _ (Table.get?_eq_some_iff.1 h)⟩

/-- Dave can go, and then the crew is without him and nothing is bound to his den; olga cannot, who
would leave dave behind. -/
theorem removes_dave :
    (∃ directory', (removeMe { user := some ⟨"dave"⟩ }).perform .epoch directory =
        (.ok (), directory') ∧
      directory'.store.tables.workspaces.get? ⟨"crew"⟩ = some (crew.leftBy ⟨"dave"⟩ .epoch) ∧
      directory'.store.tables.workspaces.get? ⟨"den"⟩ = none ∧
      (directory'.store.tables.permittables.get? grants.id).map Permittable.bindings =
        some [⟨⟨"crew"⟩, ⟨"cook"⟩⟩]) ∧
    ¬ ∃ directory', (removeMe { user := some ⟨"olga"⟩ }).perform .epoch directory =
      (.ok (), directory') := by
  have hkeyed : directory.store.tables.Keyed := by decide +kernel
  have hhoused : directory.store.tables.Housed := by decide +kernel
  have hwritable : directory.store.Writable .epoch := nofun
  obtain ⟨hdave, hloses⟩ := @removes_iff { user := some ⟨"dave"⟩ } ⟨"dave"⟩ .epoch directory hkeyed
    exists_restore hhoused hwritable rfl
  obtain ⟨holga, -⟩ := @removes_iff { user := some ⟨"olga"⟩ } ⟨"olga"⟩ .epoch directory hkeyed
    exists_restore hhoused hwritable rfl
  constructor
  · have hothers : ∀ entry ∈ directory.store.tables.workspaces.rows, 1 < entry.2.members.count →
        entry.2.members.isOnlyOwner ⟨"dave"⟩ = false := by decide +kernel
    obtain ⟨directory', hdone⟩ := hdave.2 ⟨by decide +kernel, fun id row hrow hmany hsole =>
      nomatch (Members.isOnlyOwner_iff.2 hsole).symm.trans
        (hothers _ (Table.get?_eq_some_iff.1 hrow) hmany)⟩
    have hlost := hloses directory' hdone
    have hcrew := @Tables.Loses.left _ _ _ _ hlost ⟨"crew"⟩ crew (by decide +kernel)
      (by decide +kernel) (by decide +kernel)
    have hden := (@Tables.Loses.gone _ _ _ _ hlost ⟨"den"⟩
      (workspace "den" (.ofOwner ⟨"dave"⟩ false)) (by decide +kernel)).2 (by decide +kernel)
    have hkept : ⟨"crew"⟩ ∉ directory.store.tables.closed directory'.store.tables := fun hclosed =>
      nomatch hcrew.symm.trans (Tables.mem_closed.1 hclosed).2
    have hclosed : ⟨"den"⟩ ∈ directory.store.tables.closed directory'.store.tables :=
      Tables.mem_closed.2 ⟨by decide +kernel, hden⟩
    have hgrants : directory.store.tables.permittables.get? grants.id = some grants := by
      decide +kernel
    refine ⟨directory', hdone, hcrew, hden, ?_⟩
    rw [hlost.permittables, hgrants]
    simp [grants, Permittable.unbind, hkept, hclosed]
  · rw [holga]
    rintro ⟨-, hleaves⟩
    exact hleaves ⟨"crew"⟩ crew (by decide +kernel) (by decide +kernel)
      (Members.isOnlyOwner_iff.1 (by decide +kernel))

end Accounts.Leaver

end Roster
