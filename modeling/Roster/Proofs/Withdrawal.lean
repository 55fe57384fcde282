import Roster.Proofs.AccountEffects

/-!
# When a user goes for good

Each stored workspace is dealt with by itself when a user goes: those they are no member of are
spared, their own and those of which they are the only member are closed, and they leave the
others, where an owner remains. All that points to them or to a closed workspace goes with it.
-/

namespace Roster

/-- What a stored workspace becomes when a user goes for good. -/
inductive Fate (me : UserId) (home : WorkspaceId) (row : Workspace) : Option Workspace → Prop
  | spared (hothers : row.members.users.contains me = false) : Fate me home row (some row)
  | closed (hmember : row.members.users.contains me = true)
    (hreason : row.id = home ∨ row.members.count = 1) : Fate me home row none
  | left {ws : Workspace} (hmember : row.members.users.contains me = true)
    (hrestorable : row.Restorable) (hid : ws.id = row.id)
    (hleft : row.members.Left [me] ws.members) (hother : row.members.isOnlyOwner me = false)
    (halias : ws.aliasName = row.aliasName) :
    Fate me home row (some ws)

namespace Fate

variable {me : UserId} {home : WorkspaceId} {row ws : Workspace}

/-- A workspace that remains is the same one. -/
theorem id (h : Fate me home row (some ws)) : ws.id = row.id := by
  cases h with
  | spared => rfl
  | left _ _ hid => exact hid

/-- A workspace that remains is fit to be given out if it was before. -/
theorem restorable (h : Fate me home row (some ws)) (hrow : row.Restorable) : ws.Restorable := by
  cases h with
  | spared => exact hrow
  | left _ _ hid hleft =>
    exact ⟨hid ▸ hrow.1, fun hpersonal => nomatch hpersonal.symm.trans hleft.open_after⟩

/-- A user of a workspace that remains was there before, and is not the one who goes. -/
theorem member (h : Fate me home row (some ws)) {user : UserId}
    (huser : ws.members.users.contains user = true) :
    user ≠ me ∧ row.members.users.contains user = true := by
  cases h with
  | spared hothers =>
    refine ⟨?_, huser⟩
    rintro rfl
    exact nomatch huser.symm.trans hothers
  | left _ _ _ hleft =>
    refine ⟨?_, hleft.contains huser⟩
    rintro rfl
    obtain ⟨member, hmember⟩ := Table.contains_iff.1 huser
    rw [hleft.users, if_pos (List.mem_singleton_self _)] at hmember
    exact nomatch hmember

/-- A workspace that the user is no member of remains as it is. -/
theorem eq_of_spared {fate : Option Workspace} (h : Fate me home row fate)
    (hothers : row.members.users.contains me = false) : fate = some row := by
  cases h with
  | spared => rfl
  | closed hmember => exact nomatch hmember.symm.trans hothers
  | left hmember => exact nomatch hmember.symm.trans hothers

end Fate

/-- A user goes for good: every workspace meets its fate, and what they held and what was bound to
the closed workspaces is gone, unless they had a second permittable. -/
inductive Withdrawal (operator : Operator) (t t' : Tables) : Prop
  | intro {me : UserId} {user : User} {closed : List WorkspaceId}
    (hactor : operator.user = some me) (huser : t.users.get? me = some user)
    (hfates : ∀ {id row}, t.workspaces.get? id = some row →
      Fate me user.workspace row (t'.workspaces.get? id))
    (hnothing : ∀ {id}, t.workspaces.get? id = none → t'.workspaces.get? id = none)
    (hclosed : ∀ {id}, t.workspaces.contains id = true → t'.workspaces.get? id = none →
      id ∈ closed)
    (husers : t'.users = t.users.erase me) (hroles : t'.roles = t.roles)
    (hpermittables : t.Keyed → ∀ id, t'.permittables.get? id = (t.permittables.get? id).bind fun p =>
      if p.user = me then none else some (p.unbind closed))

/-! ## Farewells -/

namespace Accounts

open Program

variable {operator : Operator} {moment : Moment} {directory directory' : Directory}

/-- The workspace that a farewell is about. -/
def Farewell.workspace : Farewell → WorkspaceId
  | stays ws => ws.id
  | goes id => id

/-- What a farewell leaves of its workspace. -/
def Farewell.left? : Farewell → Option Workspace
  | stays ws => some ws
  | goes _ => none

/-- A farewell closes the workspace or leaves it to the others. -/
theorem farewell_eq_ok {user : UserId} {home : WorkspaceId} {now : Time.Instant} {ws : Workspace}
    {farewell : Farewell} (h : Accounts.farewell user home now ws = .ok farewell) :
    (farewell = .goes ws.id ∧ (ws.id = home ∨ ws.members.count = 1)) ∨
      ∃ ws', farewell = .stays ws' ∧ ws.leave now user = .ok ws' ∧
        ws.members.isOnlyOwner user = false := by
  unfold Accounts.farewell at h
  extract_lets go at h
  split at h
  · rename_i hreason
    simp only [Bool.or_eq_true, decide_eq_true_eq] at hreason
    exact .inl ⟨pure_eq_ok.1 h, hreason⟩
  · simp only [go] at h
    split at h
    · simp at h
    · rename_i hother
      simp only [bind_eq_ok, pure_eq_ok] at h
      obtain ⟨ws', hleave, rfl⟩ := h
      exact .inr ⟨ws', rfl, hleave, Bool.eq_false_iff.2 hother⟩

/-- The workspaces that stay are those of which a farewell says so. -/
theorem mem_staying {farewells : List Farewell} {ws : Workspace} :
    ws ∈ staying farewells ↔ .stays ws ∈ farewells := by
  simp only [staying, List.mem_filterMap]
  constructor
  · rintro ⟨farewell, hfarewell, h⟩
    cases farewell <;> simp_all
  · exact fun h => ⟨_, h, rfl⟩

/-- The workspaces that go are those of which a farewell says so. -/
theorem mem_going {farewells : List Farewell} {id : WorkspaceId} :
    id ∈ going farewells ↔ .goes id ∈ farewells := by
  simp only [going, List.mem_filterMap]
  constructor
  · rintro ⟨farewell, hfarewell, h⟩
    cases farewell <;> simp_all
  · exact fun h => ⟨_, h, rfl⟩

/-- A farewell is the one for a stored workspace with a user among its members. -/
def Parting (me : UserId) (home : WorkspaceId) (now : Time.Instant) (row : Workspace)
    (farewell : Farewell) : Prop :=
  row.members.users.contains me = true ∧
    ∃ ws, row.restore = .ok ws ∧ Accounts.farewell me home now ws = .ok farewell

namespace Parting

variable {me : UserId} {home : WorkspaceId} {now : Time.Instant} {row : Workspace}

/-- There is only one farewell for a workspace. -/
theorem unique {f f' : Farewell} (h : Parting me home now row f) (h' : Parting me home now row f') :
    f = f' := by
  obtain ⟨-, ws, hws, hf⟩ := h
  obtain ⟨-, ws', hws', hf'⟩ := h'
  rw [hws] at hws'
  obtain rfl := Except.ok.inj hws'
  exact Except.ok.inj (hf.symm.trans hf')

/-- A workspace that goes is the one parted from, and goes for a reason. -/
theorem goes {id : WorkspaceId} (h : Parting me home now row (.goes id)) :
    id = row.id ∧ Fate me home row none := by
  obtain ⟨hmember, ws, hrestore, hfarewell⟩ := h
  obtain ⟨-, rfl⟩ := Workspace.restore_eq_ok.1 hrestore
  obtain ⟨hgoes, hreason⟩ | ⟨ws', hstays, -⟩ := farewell_eq_ok hfarewell
  · exact ⟨Farewell.goes.inj hgoes, .closed hmember hreason⟩
  · exact nomatch hstays

/-- A workspace that stays is the one parted from, without the user. -/
theorem stays {ws : Workspace} (h : Parting me home now row (.stays ws)) :
    ws.id = row.id ∧ Fate me home row (some ws) := by
  obtain ⟨hmember, before, hrestore, hfarewell⟩ := h
  obtain ⟨hrestorable, rfl⟩ := Workspace.restore_eq_ok.1 hrestore
  obtain ⟨hgoes, -⟩ | ⟨ws', hstays, hleave, hother⟩ := farewell_eq_ok hfarewell
  · exact nomatch hgoes
  · obtain rfl := Farewell.stays.inj hstays
    obtain ⟨hid, halias, hleft⟩ := Workspaces.left_of_leave hleave
    exact ⟨hid, .left hmember hrestorable hid hleft hother halias⟩

/-- A farewell is about the workspace parted from. -/
theorem workspace_eq {f : Farewell} (h : Parting me home now row f) : f.workspace = row.id := by
  cases f with
  | goes id => exact h.goes.1
  | stays ws => exact h.stays.1

/-- What a farewell leaves of the workspace parted from is its fate. -/
theorem fate {f : Farewell} (h : Parting me home now row f) : Fate me home row f.left? := by
  cases f with
  | goes id => exact h.goes.2
  | stays ws => exact h.stays.2

/-- A workspace that stays bears the time of the parting. -/
theorem updatedAt_of_stays {ws : Workspace} (h : Parting me home now row (.stays ws)) :
    ws.updatedAt = now := by
  obtain ⟨-, before, -, hfarewell⟩ := h
  obtain ⟨hgoes, -⟩ | ⟨ws', hstays, hleave, -⟩ := farewell_eq_ok hfarewell
  · exact nomatch hgoes
  · obtain rfl := Farewell.stays.inj hstays
    obtain ⟨members, -, rfl⟩ := Workspace.changeMembers_eq_ok.1 hleave
    rfl

end Parting

/-- The stored workspaces once all farewells have been carried out. -/
def partedWorkspaces (farewells : List Farewell) (workspaces : Table .workspace Workspace) :
    Table .workspace Workspace :=
  (going farewells).foldl Table.erase
    ((staying farewells).foldl (fun table ws => table.insert ws.id ws) workspaces)

/-- Some farewells are those of a user: there is one for each stored workspace with the user among its
members, and no other one. -/
structure Partings (t : Tables) (me : UserId) (home : WorkspaceId) (now : Time.Instant)
    (farewells : List Farewell) : Prop where
  all : ∀ {row}, t.workspaces.get? row.id = some row → row.members.users.contains me = true →
    ∃ f ∈ farewells, Parting me home now row f
  only : ∀ f ∈ farewells, ∃ row, t.workspaces.get? row.id = some row ∧ Parting me home now row f

section Parted

variable {t : Tables} {farewells : List Farewell} {id : WorkspaceId}

/-- A key that no farewell is about keeps its row. -/
theorem get?_parted_of_none (hgoing : id ∉ going farewells)
    (hstaying : ∀ ws ∈ staying farewells, ws.id ≠ id) :
    (partedWorkspaces farewells t.workspaces).get? id = t.workspaces.get? id := by
  rw [partedWorkspaces, Table.get?_foldl_erase, if_neg hgoing, Table.get?_foldl_insert_of_ne hstaying]

/-- A workspace that is there before and not after is one that goes. -/
theorem mem_going_of_gone (hthere : t.workspaces.contains id = true)
    (hgone : (partedWorkspaces farewells t.workspaces).get? id = none) : id ∈ going farewells := by
  by_contra hgoing
  rw [partedWorkspaces, Table.get?_foldl_erase, if_neg hgoing, ← Table.contains_eq_false_iff] at hgone
  have hkept := List.foldlRecOn (motive := fun table : Table .workspace Workspace =>
      table.contains id = true) (staying farewells) (fun table ws => table.insert ws.id ws) hthere
    fun table htable ws _ => (Table.contains_insert ..).2 (.inr htable)
  rw [hkept] at hgone
  exact nomatch hgone

/-- A workspace that is there after the farewells stays, or was there before as it is. -/
theorem mem_staying_of_parted {ws : Workspace}
    (h : (partedWorkspaces farewells t.workspaces).get? id = some ws) :
    t.workspaces.get? id = some ws ∨ ws ∈ staying farewells := by
  rw [partedWorkspaces, Table.get?_foldl_erase] at h
  split at h
  · exact nomatch h
  · refine List.foldlRecOn (motive := fun table : Table .workspace Workspace =>
      ∀ {id ws}, table.get? id = some ws → t.workspaces.get? id = some ws ∨ ws ∈ staying farewells)
      (staying farewells) (fun table ws => table.insert ws.id ws) .inl ?_ h
    intro table htable other hother id ws hws
    obtain ⟨-, rfl⟩ | ⟨-, hws⟩ := Table.get?_insert_eq_some.1 hws
    · exact .inr hother
    · exact htable hws

end Parted

namespace Partings

variable {t : Tables} {me : UserId} {home : WorkspaceId} {now : Time.Instant}
  {farewells : List Farewell} {id : WorkspaceId} {row : Workspace} {f : Farewell}

/-- A farewell that is about a stored workspace is the one for it. -/
theorem parting (h : Partings t me home now farewells)
    (hrow : t.workspaces.get? row.id = some row) (hf : f ∈ farewells)
    (habout : f.workspace = row.id) : Parting me home now row f := by
  obtain ⟨row', hrow', hparting⟩ := h.only f hf
  rw [← hparting.workspace_eq, habout, hrow] at hrow'
  rw [Option.some.inj hrow']
  exact hparting

/-- What there is under the id of a workspace that has its farewell is what the farewell leaves. -/
theorem get?_of_mem (h : Partings t me home now farewells)
    (hrow : t.workspaces.get? row.id = some row) (hf : f ∈ farewells)
    (hparting : Parting me home now row f) :
    (partedWorkspaces farewells t.workspaces).get? row.id = f.left? := by
  rw [partedWorkspaces, Table.get?_foldl_erase]
  cases f with
  | goes id =>
    obtain rfl := hparting.workspace_eq
    rw [if_pos (mem_going.2 hf)]
    rfl
  | stays ws =>
    have hid : ws.id = row.id := hparting.workspace_eq
    have hremains : row.id ∉ going farewells := fun hgoing =>
      nomatch (h.parting hrow (mem_going.1 hgoing) rfl).unique hparting
    have hfiled := Table.get?_foldl_insert_of_mem Workspace.id (mem_staying.2 hf)
      (fun other hother hkey => Farewell.stays.inj
        ((h.parting hrow (mem_staying.1 hother) (hkey.trans hid)).unique hparting))
      t.workspaces
    rw [if_neg hremains, ← hid, hfiled]
    rfl

/-- A workspace that the user is no member of remains as it is. -/
theorem get?_of_others (h : Partings t me home now farewells)
    (hrow : t.workspaces.get? row.id = some row)
    (hothers : row.members.users.contains me = false) :
    (partedWorkspaces farewells t.workspaces).get? row.id = some row := by
  have hnot {f : Farewell} (hf : f ∈ farewells) : f.workspace ≠ row.id := fun habout =>
    nomatch hothers.symm.trans (h.parting hrow hf habout).1
  rw [get?_parted_of_none (fun hgoing => hnot (mem_going.1 hgoing) rfl)
    (fun ws hstaying => hnot (mem_staying.1 hstaying)), hrow]

/-- Farewells file no workspace where there was none. -/
theorem get?_of_none (h : Partings t me home now farewells) (hnone : t.workspaces.get? id = none) :
    (partedWorkspaces farewells t.workspaces).get? id = none := by
  have hnot {f : Farewell} (hf : f ∈ farewells) : f.workspace ≠ id := by
    rintro rfl
    obtain ⟨row, hrow, hparting⟩ := h.only f hf
    rw [hparting.workspace_eq, hrow] at hnone
    exact nomatch hnone
  rw [get?_parted_of_none (fun hgoing => hnot (mem_going.1 hgoing) rfl)
    (fun ws hstaying => hnot (mem_staying.1 hstaying)), hnone]

/-- The workspaces that go are those that are there before and not after. -/
theorem mem_going_iff (h : Partings t me home now farewells) :
    id ∈ going farewells ↔ t.workspaces.contains id = true ∧
      (partedWorkspaces farewells t.workspaces).get? id = none := by
  constructor
  · intro hgoing
    obtain ⟨row, hrow, hparting⟩ := h.only _ (mem_going.1 hgoing)
    obtain rfl : id = row.id := hparting.workspace_eq
    exact ⟨Table.contains_iff.2 ⟨row, hrow⟩, h.get?_of_mem hrow (mem_going.1 hgoing) hparting⟩
  · rintro ⟨hthere, hgone⟩
    exact mem_going_of_gone hthere hgone

/-- Every stored workspace meets its fate. -/
theorem fate (h : Partings t me home now farewells) (hfiled : t.Filed)
    (hrow : t.workspaces.get? id = some row) :
    Fate me home row ((partedWorkspaces farewells t.workspaces).get? id) := by
  obtain rfl := hfiled.workspaces hrow
  cases hmember : row.members.users.contains me with
  | false =>
    rw [h.get?_of_others hrow hmember]
    exact .spared hmember
  | true =>
    obtain ⟨f, hf, hparting⟩ := h.all hrow hmember
    rw [h.get?_of_mem hrow hf hparting]
    exact hparting.fate

/-- The workspaces that are left are filed under their own ids. -/
theorem filed (h : Partings t me home now farewells) (hfiled : t.Filed) {ws : Workspace}
    (hws : (partedWorkspaces farewells t.workspaces).get? id = some ws) : ws.id = id := by
  cases hrow : t.workspaces.get? id with
  | none =>
    rw [h.get?_of_none hrow] at hws
    exact nomatch hws
  | some row =>
    have hfate := h.fate hfiled hrow
    rw [hws] at hfate
    cases hfate with
    | spared => exact hfiled.workspaces hrow
    | left _ _ hid => exact hid.trans (hfiled.workspaces hrow)

end Partings

/-- Saving some workspaces and removing others comes to filing and erasing rows. -/
theorem tables_of_farewells (farewells : List Farewell) (draft : Draft) :
    ((going farewells).foldl Command.dropIfThere
        ((staying farewells).foldl Draft.putWorkspace draft)).tables =
      { draft.tables with
        workspaces := partedWorkspaces farewells draft.tables.workspaces } := by
  have hput (items : List Workspace) (draft : Draft) :
      (items.foldl Draft.putWorkspace draft).tables = { draft.tables with
        workspaces := items.foldl (fun table ws => table.insert ws.id ws)
          draft.tables.workspaces } := by
    induction items generalizing draft with
    | nil => rfl
    | cons ws rest ih => exact ih _
  have hdrop (ids : List WorkspaceId) (draft : Draft) :
      (ids.foldl Command.dropIfThere draft).tables = { draft.tables with
        workspaces := ids.foldl Table.erase draft.tables.workspaces } := by
    induction ids generalizing draft with
    | nil => rfl
    | cons id rest ih =>
      rw [List.foldl_cons, ih, List.foldl_cons]
      unfold Command.dropIfThere
      split
      · rfl
      · rename_i hfree
        rw [Table.erase_of_free (Bool.eq_false_iff.2 hfree)]
  rw [hdrop, hput]
  rfl

/-- Removing the permittable of a user, if there is one, leaves those of the others. -/
theorem get?_without_permittable {t : Tables} {me : UserId} {closed : List WorkspaceId}
    (hkeyed : t.Keyed) {t' : Tables} (hrewrites : t.Rewrites (·.unbind closed) t')
    {rest : Table .permittable Permittable}
    (hrest : match t'.permittables.values.find? (·.user = me) with
      | some p => rest = t'.permittables.erase p.id
      | none => rest = t'.permittables) (id : PermittableId) :
    rest.get? id = (t.permittables.get? id).bind fun p =>
      if p.user = me then none else some (p.unbind closed) := by
  split at hrest
  · rename_i p hfind
    obtain ⟨key, hkey, huser⟩ := Table.get?_of_find?_values hfind
    rw [hrewrites.permittables, Option.map_eq_some_iff] at hkey
    obtain ⟨p₀, hp₀, rfl⟩ := hkey
    have hmine : p₀.user = me := of_decide_eq_true huser
    rw [hrest, Table.get?_erase, hrewrites.permittables, Permittable.unbind_id,
      hkeyed.permittables hp₀]
    by_cases hid : key = id
    · subst hid
      rw [if_pos rfl, hp₀, Option.bind_some, if_pos hmine]
    · rw [if_neg hid]
      cases hp : t.permittables.get? id with
      | none => rfl
      | some p =>
        have hother : p.user ≠ me := by
          intro hme
          exact hid (hkeyed.onePermittable hp₀ hp (hmine.trans hme.symm))
        rw [Option.map_some, Option.bind_some, if_neg hother]
  · rename_i hnone
    rw [hrest, hrewrites.permittables]
    cases hp : t.permittables.get? id with
    | none => rfl
    | some p =>
      have hp' : t'.permittables.get? id = some (p.unbind closed) := by
        rw [hrewrites.permittables, hp, Option.map_some]
      have htest := Table.test_of_find?_values_eq_none hnone hp'
      have hother : p.user ≠ me := of_decide_eq_false htest
      rw [Option.map_some, Option.bind_some, if_neg hother]

/-- Asking for the workspaces of a user and parting with each of them gives their farewells. -/
theorem partings_of_mapM {t : Tables} (hfiled : t.Filed) {me : UserId} {home : WorkspaceId}
    {now : Time.Instant} {workspaces : List Workspace} {farewells : List Farewell}
    (hanswer : (Query.workspacesOf .none me).answer t = .ok workspaces)
    (hfarewells : workspaces.mapM (farewell me home now) = .ok farewells) :
    Partings t me home now farewells := by
  obtain ⟨hrestored, hrows⟩ := mapM_eq_ok (hanswer : List.mapM _ _ = _)
  obtain ⟨hall, hfrom⟩ := mapM_eq_ok hfarewells
  constructor
  · intro row hrow hmember
    have hlisted : row ∈ t.workspaces.values.filter fun ws =>
        ws.members.users.contains me && Filter.none.canRead ws.id := by
      simp [Table.mem_values_iff.2 ⟨row.id, hrow⟩, hmember]
    obtain ⟨ws, hws, hrestore⟩ := hrestored row hlisted
    obtain ⟨f, hf, hfarewell⟩ := hall ws hws
    exact ⟨f, hf, hmember, ws, hrestore, hfarewell⟩
  · intro f hf
    obtain ⟨ws, hws, hfarewell⟩ := hfrom f hf
    obtain ⟨row, hlisted, hrestore⟩ := hrows ws hws
    simp only [List.mem_filter, Bool.and_eq_true] at hlisted
    obtain ⟨hvalue, hmember, -⟩ := hlisted
    obtain ⟨id, hrow⟩ := Table.mem_values_iff.1 hvalue
    obtain rfl := hfiled.workspaces hrow
    exact ⟨row, hrow, hmember, ws, hrestore, hfarewell⟩

/-- What going for good comes to when it succeeds: the user has a farewell for each of their
workspaces and for no other one, all farewells are carried out, and the user and all that points to
them or to a closed workspace is gone. -/
theorem removeMe_inversion (hfiled : directory.store.tables.Filed)
    (h : (removeMe operator).perform moment directory = (.ok (), directory')) :
    let t := directory.store.tables
    let t' := directory'.store.tables
    ∃ me user farewells, operator.user = some me ∧ t.users.get? me = some user ∧
      Partings t me user.workspace moment.now farewells ∧
      t'.workspaces = partedWorkspaces farewells t.workspaces ∧
      t'.users = t.users.erase me ∧ t'.roles = t.roles ∧
      (t.Keyed → ∀ id, t'.permittables.get? id = (t.permittables.get? id).bind fun p =>
        if p.user = me then none else some (p.unbind (going farewells))) := by
  simp -zeta only [removeMe, Action.perform_bind_eq_ok, Action.perform_ofExcept, Action.perform_now,
    Prod.mk.injEq, ok_eq_ok_comm, Operator.actor_eq_ok,
    Usecase.perform_run_eq_ok (rfl : ({ transactional := true } : Usecase).transactional = true)]
    at h
  obtain ⟨me, _, ⟨hactor, rfl⟩, now, _, ⟨rfl, rfl⟩, -, draft, drawn, store, hends, hcommit, rfl⟩ := h
  simp -zeta only [ends_bind, ends_query, ends_ofExcept, ends_command, ends_queryOptional,
    Command.apply_saveWorkspaces, Command.apply_removeWorkspaces, Query.answer_user] at hends
  obtain ⟨user, _, ⟨huser, rfl⟩, workspaces, _, ⟨hanswer, rfl⟩, farewells, _, ⟨hfarewells, rfl⟩, _, _,
    ⟨_, rfl, rfl⟩, _, _, ⟨_, rfl, rfl⟩, _, _, hstrip, held, s, ⟨hheld, rfl⟩, hends⟩ := hends
  have hpartings := partings_of_mapM hfiled hanswer hfarewells
  have htables := tables_of_farewells farewells (Usecase.opening directory).1
  have hparted : Tables.Filed { directory.store.tables with
      workspaces := partedWorkspaces farewells directory.store.tables.workspaces } :=
    hfiled.withWorkspaces (hpartings.filed hfiled)
  obtain ⟨-, hrewrites⟩ := ends_stripBindings (htables ▸ hparted) hstrip
  simp only [htables] at hrewrites
  have hdraft : draft.tables.workspaces = s.1.tables.workspaces ∧
      draft.tables.users = s.1.tables.users.erase me ∧ draft.tables.roles = s.1.tables.roles ∧
      match s.1.tables.permittables.values.find? (·.user = me) with
      | some p => draft.tables.permittables = s.1.tables.permittables.erase p.id
      | none => draft.tables.permittables = s.1.tables.permittables := by
    rw [← (ok_eq_ok_comm.1 ((optional_found _ _).symm.trans hheld) : held = _)]
    cases held with
    | none =>
      obtain ⟨_, hremoved, hdraft⟩ := ends_command.1 hends
      obtain ⟨-, rfl⟩ := Command.apply_removeUser.1 hremoved
      cases hdraft
      exact ⟨rfl, rfl, rfl, rfl⟩
    | some p =>
      simp only [ends_bind, ends_command, Command.apply_removePermittable,
        Command.apply_removeUser] at hends
      obtain ⟨_, _, ⟨_, ⟨-, rfl⟩, rfl⟩, _, ⟨-, rfl⟩, hdraft⟩ := hends
      cases hdraft
      exact ⟨rfl, rfl, rfl, rfl⟩
  obtain ⟨hworkspaces, husers, hroles, hpermittables⟩ := hdraft
  dsimp only
  rw [Store.tables_of_commit hcommit]
  refine ⟨me, user, farewells, hactor, huser, hpartings, hworkspaces.trans hrewrites.workspaces,
    ?_, ?_, ?_⟩
  · rw [husers, hrewrites.users]
    rfl
  · rw [hroles, hrewrites.roles]
    rfl
  · intro hkeyed
    exact get?_without_permittable { hkeyed with workspaces := hparted.workspaces } hrewrites
      hpermittables

/-- A user goes for good. -/
theorem removeMe_effect (hfiled : directory.store.tables.Filed)
    (h : (removeMe operator).perform moment directory = (.ok (), directory')) :
    Withdrawal operator directory.store.tables directory'.store.tables := by
  obtain ⟨me, user, farewells, hactor, huser, hpartings, hworkspaces, husers, hroles,
    hpermittables⟩ := removeMe_inversion hfiled h
  refine @Withdrawal.intro _ _ _ me user (going farewells) hactor huser ?_ ?_ ?_ husers hroles
    hpermittables
  · intro id row hrow
    rw [hworkspaces]
    exact hpartings.fate hfiled hrow
  · intro id hnone
    rw [hworkspaces]
    exact hpartings.get?_of_none hnone
  · intro id hthere hgone
    rw [hworkspaces] at hgone
    exact hpartings.mem_going_iff.2 ⟨hthere, hgone⟩

end Accounts

end Roster
