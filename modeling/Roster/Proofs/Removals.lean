import Roster.Proofs.Isolation
import Roster.Proofs.WorkspaceEffects

/-!
# When members can be taken out

Members are taken out of a workspace all together or not at all. Whether they can be is a matter of
the workspace as it is stored: they must be members, an owner must remain, and whoever takes others
out must be an owner as long as others are taken out. What is left behind is then known row by row.
-/

namespace Roster

/-- Nothing is left of a list without repetitions only if it was empty. -/
theorem distinct_eq_nil {α : Type} [DecidableEq α] {as : List α} : distinct as = [] ↔ as = [] := by
  cases as <;> simp [distinct]

/-! ## Rows that are all rewritten -/

namespace Table

variable {kind : Entity} {ρ : Type}

/-- The table with every row rewritten. -/
def mapRows (f : ρ → ρ) (table : Table kind ρ) : Table kind ρ where
  rows := table.rows.map fun entry => (entry.1, f entry.2)
  sorted := by simpa only [List.pairwise_map] using table.sorted

/-- Rewriting keeps every row under its key. -/
@[simp]
theorem get?_mapRows (f : ρ → ρ) (table : Table kind ρ) (key : Ident kind) :
    (table.mapRows f).get? key = (table.get? key).map f := by
  simp only [get?, mapRows, List.find?_map, Option.map_map]
  rfl

end Table

/-- Tables in which every permittable is rewritten are known. -/
theorem Tables.Rewrites.eq_mapRows {rewrite : Permittable → Permittable} {t t' : Tables}
    (h : t.Rewrites rewrite t') : t' = { t with permittables := t.permittables.mapRows rewrite } := by
  obtain ⟨workspaces, users, roles, permittables⟩ := t'
  obtain ⟨rfl, rfl, rfl, hpermittables⟩ := h
  congr 1
  exact Table.ext_get? fun key => (hpermittables key).trans (Table.get?_mapRows ..).symm

/-! ## Members who leave -/

namespace Members

variable {members : Members} {user : UserId} {leaving : List UserId}

/-- The members without some users. -/
def without (members : Members) (leaving : List UserId) : Members :=
  { members with users := leaving.foldl Table.erase members.users }

/-- Who leaves is gone, and the others stay. -/
theorem get?_without (members : Members) (leaving : List UserId) (other : UserId) :
    (members.without leaving).users.get? other =
      if other ∈ leaving then none else members.users.get? other :=
  Table.get?_foldl_erase leaving members.users other

/-- Who leaves has no role any more, and the others keep theirs. -/
theorem userRole?_without (members : Members) (leaving : List UserId) (other : UserId) :
    (members.without leaving).userRole? other =
      if other ∈ leaving then none else members.userRole? other := by
  unfold userRole?
  rw [get?_without]
  split <;> rfl

/-- The owners are left but for the one who leaves. -/
theorem isOwner_without_iff {first other : UserId} :
    (members.without [first]).userRole? other = some .owner ↔
      other ≠ first ∧ members.userRole? other = some .owner := by
  rw [userRole?_without]
  by_cases hother : other = first <;> simp [hother]

/-- Who leaves is no member any more, and the others still are. -/
theorem contains_without (members : Members) (leaving : List UserId) (other : UserId) :
    (members.without leaving).users.contains other = true ↔
      other ∉ leaving ∧ members.users.contains other = true := by
  simp only [Table.contains, get?_without]
  split <;> simp [*]

/-- An owner is a user with that role. -/
theorem mem_owners_iff :
    user ∈ members.usersByRole .owner ↔ members.userRole? user = some .owner := by
  rw [mem_usersByRole, userRole?, Option.map_eq_some_iff]

/-- A user may take some members out, one after the other: an owner remains, and as long as anybody
else is taken out the user is an owner. -/
structure Parts (user : UserId) (members : Members) (leaving : List UserId) : Prop where
  team : members.fixed = false
  present : ∀ member ∈ leaving, members.users.contains member = true
  owner : ∃ owner, owner ∉ leaving ∧ members.userRole? owner = some .owner
  entitled : (∀ member ∈ leaving, member = user) ∨
    (members.userRole? user = some .owner ∧ user ∉ leaving.dropLast)

/-- A single member may be taken out of a team if another owner remains and the user is the member or
an owner. -/
theorem parts_singleton_iff {member : UserId} : members.Parts user [member] ↔
    members.fixed = false ∧ members.users.contains member = true ∧
      (∃ owner, owner ≠ member ∧ members.userRole? owner = some .owner) ∧
      (member = user ∨ members.userRole? user = some .owner) := by
  constructor
  · intro h
    have howner := h.owner
    have hentitled := h.entitled
    simp only [List.mem_singleton, forall_eq, List.dropLast_singleton, List.not_mem_nil,
      not_false_eq_true, and_true] at howner hentitled
    exact ⟨h.team, h.present member List.mem_cons_self, howner, hentitled⟩
  · rintro ⟨hteam, hpresent, howner, hentitled⟩
    exact ⟨hteam, by simpa using hpresent, by simpa using howner, by simpa using hentitled⟩

/-- A user who is listed once is nobody before the last if nobody else is listed. -/
theorem dropLast_eq_nil_of_nodup {rest : List UserId} (hnodup : rest.Nodup) (user : UserId)
    (hall : ∀ member ∈ rest, member = user) : rest.dropLast = [] := by
  match rest, hnodup with
  | [], _ => rfl
  | [_], _ => rfl
  | first :: second :: _, hnodup =>
    have hsame : first = second := (hall first (by simp)).trans (hall second (by simp)).symm
    exact absurd hnodup (by simp [hsame])

/-- A user who is entitled to take out several others, as an owner or because there are no others, is
entitled to take out the first and then the rest. -/
theorem entitled_cons_iff {P : Prop} {first : UserId} {rest : List UserId}
    (hnodup : (first :: rest).Nodup) (hrest : rest ≠ []) :
    ((∀ member ∈ first :: rest, member = user) ∨ (P ∧ user ∉ (first :: rest).dropLast)) ↔
      (first = user ∨ P) ∧
        ((∀ member ∈ rest, member = user) ∨ ((user ≠ first ∧ P) ∧ user ∉ rest.dropLast)) := by
  obtain ⟨hfirst, hnodup⟩ := List.nodup_cons.1 hnodup
  obtain ⟨member, hmember⟩ := List.exists_mem_of_ne_nil rest hrest
  rw [List.dropLast_cons_of_ne_nil hrest, List.mem_cons, not_or]
  constructor
  · rintro (hall | ⟨howner, hne, hlast⟩)
    · -- All would be the user, but the first is not among the rest.
      have hsame : member = first := (hall member (List.mem_cons_of_mem _ hmember)).trans
        (hall first List.mem_cons_self).symm
      exact absurd (hsame ▸ hmember) hfirst
    · exact ⟨.inr howner, .inr ⟨⟨hne, howner⟩, hlast⟩⟩
  · rintro ⟨hentitled, hall | ⟨⟨hne, howner⟩, hlast⟩⟩
    · have hne : user ≠ first := by
        rintro rfl
        exact hfirst (hall member hmember ▸ hmember)
      rw [dropLast_eq_nil_of_nodup hnodup user hall]
      exact .inr ⟨hentitled.resolve_left hne.symm, hne, List.not_mem_nil⟩
    · exact .inr ⟨howner, hne, hlast⟩

/-- Several members may be taken out when the first of them may be, and then the others. -/
theorem parts_cons_iff {first : UserId} {rest : List UserId} (hnodup : (first :: rest).Nodup)
    (hrest : rest ≠ []) :
    members.Parts user (first :: rest) ↔
      members.Parts user [first] ∧ (members.without [first]).Parts user rest := by
  have hfirst := (List.nodup_cons.1 hnodup).1
  have hentitlement := @entitled_cons_iff user (members.userRole? user = some .owner) _ _ hnodup hrest
  rw [← isOwner_without_iff] at hentitlement
  rw [parts_singleton_iff]
  constructor
  · intro h
    obtain ⟨owner, hstays, howner⟩ := h.owner
    rw [List.mem_cons, not_or] at hstays
    obtain ⟨hpart, hentitled⟩ := hentitlement.1 h.entitled
    refine ⟨⟨h.team, h.present first List.mem_cons_self, ⟨owner, hstays.1, howner⟩, hpart⟩,
      h.team, fun member hmember => (contains_without ..).2 ⟨?_, ?_⟩,
      ⟨owner, hstays.2, isOwner_without_iff.2 ⟨hstays.1, howner⟩⟩, hentitled⟩
    · rw [List.mem_singleton]
      rintro rfl
      exact hfirst hmember
    · exact h.present member (List.mem_cons_of_mem _ hmember)
  · rintro ⟨⟨hteam, hpresent, -, hpart⟩, h⟩
    obtain ⟨owner, hstays, howner⟩ := h.owner
    obtain ⟨hother, howner⟩ := isOwner_without_iff.1 howner
    have hothers := fun member hmember => ((contains_without ..).1 (h.present member hmember)).2
    exact ⟨hteam, List.forall_mem_cons.2 ⟨hpresent, hothers⟩,
      ⟨owner, by simp [hother, hstays], howner⟩, hentitlement.2 ⟨hpart, h.entitled⟩⟩

/-- A user beside whom there is an owner is not the only one. -/
theorem not_isOnlyOwner_of_other {other : UserId} (hother : other ≠ user)
    (howner : members.userRole? other = some .owner) : members.isOnlyOwner user = false := by
  refine decide_eq_false fun howners => ?_
  have hmem := mem_owners_iff.2 howner
  rw [howners, List.mem_singleton] at hmem
  exact hother hmem

end Members

/-- A workspace can be left by a member unless it is personal. -/
theorem Workspace.leave_eq_ok {ws ws' : Workspace} {now : Time.Instant} {member : UserId} :
    ws.leave now member = .ok ws' ↔ ws.members.fixed = false ∧
      ws.members.users.contains member = true ∧
      ws' = { ws with members := ws.members.without [member], updatedAt := now } := by
  rw [leave, changeMembers_eq_ok]
  simp only [Members.leave_eq_ok, and_assoc, exists_and_left, exists_eq_left]
  rfl

namespace Workspaces

variable {ws ws' : Workspace} {user : UserId} {now : Time.Instant}

/-- To take one member out leaves an owner behind exactly when the member may be taken out. -/
theorem takeOut_eq_ok_iff {member : UserId} :
    (takeOut user now ws member = .ok ws' ∧ ∃ owner, ws'.members.userRole? owner = some .owner) ↔
      ws.members.Parts user [member] ∧
        ws' = { ws with members := ws.members.without [member], updatedAt := now } := by
  rw [Members.parts_singleton_iff]
  constructor
  · rintro ⟨htake, owner, howner⟩
    obtain ⟨hteam, hpresent, rfl⟩ := Workspace.leave_eq_ok.1 (leave_of_takeOut htake)
    refine ⟨⟨hteam, hpresent, ⟨owner, Members.isOwner_without_iff.1 howner⟩, ?_⟩, rfl⟩
    by_cases hself : member = user
    · exact .inl hself
    · exact .inr (owner_of_takeOut htake hself)
  · rintro ⟨⟨hteam, hpresent, ⟨owner, hother, howner⟩, hentitled⟩, rfl⟩
    refine ⟨?_, owner, Members.isOwner_without_iff.2 ⟨hother, howner⟩⟩
    have hleft := (@Workspace.leave_eq_ok ws _ now member).2 ⟨hteam, hpresent, rfl⟩
    by_cases hself : member = user
    · subst hself
      have honly := Members.not_isOnlyOwner_of_other hother howner
      simp [takeOut, honly, hleft]
    · simp [takeOut, hself, hentitled.resolve_left hself, hleft]

/-- To take members out one after the other leaves an owner behind exactly when they may be taken
out. -/
theorem foldlM_takeOut_eq_ok_iff {leaving : List UserId} (hnodup : leaving.Nodup)
    (hsome : leaving ≠ []) :
    (leaving.foldlM (takeOut user now) ws = .ok ws' ∧
        ∃ owner, ws'.members.userRole? owner = some .owner) ↔
      ws.members.Parts user leaving ∧
        ws' = { ws with members := ws.members.without leaving, updatedAt := now } := by
  induction leaving generalizing ws with
  | nil => exact absurd rfl hsome
  | cons first rest ih =>
    by_cases hrest : rest = []
    · subst hrest
      rw [← takeOut_eq_ok_iff, List.foldlM_cons, bind_eq_ok]
      simp only [List.foldlM_nil, pure_eq_ok, exists_eq_right']
    · have hothers (w : Workspace) := @ih w (List.nodup_cons.1 hnodup).2 hrest
      rw [Members.parts_cons_iff hnodup hrest, List.foldlM_cons, bind_eq_ok]
      constructor
      · rintro ⟨⟨w, hfirst, hfold⟩, howner⟩
        -- The owner who remains in the end has remained after the first step as well.
        obtain ⟨hparts, rfl⟩ := (hothers w).1 ⟨hfold, howner⟩
        obtain ⟨owner, -, hremains⟩ := hparts.owner
        obtain ⟨hpart, rfl⟩ := takeOut_eq_ok_iff.1 ⟨hfirst, owner, hremains⟩
        exact ⟨⟨hpart, hparts⟩, rfl⟩
      · rintro ⟨⟨hpart, hparts⟩, rfl⟩
        let w : Workspace := { ws with members := ws.members.without [first], updatedAt := now }
        have hfirst : takeOut user now ws first = .ok w := (takeOut_eq_ok_iff.2 ⟨hpart, rfl⟩).1
        obtain ⟨hfold, howner⟩ := (hothers w).2 ⟨hparts, rfl⟩
        exact ⟨⟨w, hfirst, hfold⟩, howner⟩

end Workspaces

/-! ## Sweeps that are not refused -/

/-- Every permittable takes the place of one that has the same id and belongs to the same user. -/
def Tables.Resembles (base t : Tables) : Prop :=
  ∀ {key q}, t.permittables.get? key = some q →
    ∃ p, base.permittables.get? key = some p ∧ q.id = p.id ∧ q.user = p.user

/-- A permittable may be saved again where every other one belongs to another user. -/
theorem Tables.Resembles.apply_savePermittable {base : Tables} {draft : Draft}
    (h : base.Resembles draft.tables) (hkeyed : base.Keyed) {p q : Permittable}
    (hp : base.permittables.get? p.id = some p) (hid : q.id = p.id) (huser : q.user = p.user) :
    (Command.savePermittable q).apply draft = .ok (draft.putPermittable q) := by
  refine Command.apply_savePermittable.2 ⟨fun key other hother hne hsame => ?_, rfl⟩
  obtain ⟨before, hbefore, hid', huser'⟩ := h hother
  have hkey := hkeyed.onePermittable hbefore hp (by rw [← huser', hsame, huser])
  have hown := hkeyed.permittables hbefore
  exact hne (by rw [hid', hown, hkey, hid])

namespace Program

variable {ids : Nat → String} {s s' : Draft × Nat}

/-- A sweep that keeps the ids and the users comes to an end if no user has two permittables. -/
theorem exists_ends_forIn {base : Tables} (hkeyed : base.Keyed)
    (rewritten : Permittable → Permittable × Bool) (hid : ∀ p, (rewritten p).1.id = p.id)
    (huser : ∀ p, (rewritten p).1.user = p.user) {items : List Permittable}
    (hitems : ∀ p ∈ items, base.permittables.get? p.id = some p) (h : base.Resembles s.1.tables) :
    ∃ s', (forIn items PUnit.unit fun p _ =>
      if (rewritten p).2 then do
        Program.command (.savePermittable (rewritten p).1)
        pure (.yield ⟨⟩)
      else pure (.yield ⟨⟩) : Program PUnit).Ends ids s ⟨⟩ s' := by
  induction items generalizing s with
  | nil => exact ⟨s, ends_pure.2 ⟨rfl, rfl⟩⟩
  | cons p rest ih =>
    have hrest := fun q hq => hitems q (List.mem_cons_of_mem _ hq)
    have hp := hitems p List.mem_cons_self
    simp only [List.forIn_cons, ends_bind]
    cases hchanged : (rewritten p).2 with
    | false =>
      obtain ⟨s', hends⟩ := ih hrest h
      exact ⟨s', .yield ⟨⟩, s, ends_pure.2 ⟨rfl, rfl⟩, hends⟩
    | true =>
      have happly := h.apply_savePermittable hkeyed hp (hid p) (huser p)
      have hput : base.Resembles (s.1.putPermittable (rewritten p).1).tables := by
        intro key q hq
        obtain ⟨rfl, rfl⟩ | ⟨-, hq⟩ := Table.get?_insert_eq_some.1 hq
        · exact ⟨p, by rw [hid, hp], hid p, huser p⟩
        · exact h hq
      obtain ⟨s', hends⟩ := ih (s := (s.1.putPermittable (rewritten p).1, s.2)) hrest hput
      refine ⟨s', .yield ⟨⟩, _, ?_, hends⟩
      rw [if_pos rfl, ends_bind]
      exact ⟨(), _, ends_command.2 ⟨_, happly, rfl⟩, ends_pure.2 ⟨rfl, rfl⟩⟩

end Program

namespace Workspaces

open Program

variable {operator : Operator} {moment : Moment} {directory directory' : Directory}
  {id : WorkspaceId} {ws' : Workspace}

/-- A change of one workspace succeeds exactly when the caller passes the check, the workspace is
given out, the change ends well and the snapshot can be written. -/
theorem perform_edit_eq_ok {usecase : Usecase} (htransactional : usecase.transactional = true)
    {before : UserId → Except Error Unit}
    {change : UserId → Time.Instant → Workspace → Program Workspace} :
    (edit usecase id operator before change).perform moment directory = (.ok ws', directory') ↔
      ∃ user ws s, operator.user = some user ∧
        usecase.requirements.check (some operator) = .ok () ∧ before user = .ok () ∧
        directory.store.tables.Shows id ws ∧
        (change user moment.now ws).Ends moment.ids (Usecase.opening directory) ws' s ∧
        directory.store.Writable moment ∧
        directory' =
          { store := directory.store.holding (s.1.tables.fileWorkspace ws'), drawn := s.2 } := by
  constructor
  · intro h
    simp only [edit, Action.perform_bind_eq_ok, Action.perform_ofExcept, Action.perform_now,
      Usecase.perform_run_eq_ok htransactional, Prod.mk.injEq, Operator.actor_eq_ok] at h
    obtain ⟨user, _, ⟨hactor, rfl⟩, _, _, ⟨hnow, rfl⟩, hcheck, draft, drawn, store, hends, hcommit,
      rfl⟩ := h
    cases hnow
    simp only [ends_bind, ends_ofExcept, ends_query, ends_command, ends_pure] at hends
    obtain ⟨_, _, ⟨hbefore, rfl⟩, ws, _, ⟨hshows, rfl⟩, _, s, hchange, _, s₂, ⟨saved, happly, rfl⟩,
      rfl, hdraft⟩ := hends
    cases hdraft
    obtain ⟨hwritable, rfl⟩ := Store.commit_eq_ok_iff.1 hcommit
    refine ⟨user, ws, s, hactor, hcheck, hbefore, Query.answer_workspace.1 hshows, hchange, hwritable,
      ?_⟩
    rw [Command.apply_saveWorkspaces.1 happly]
    rfl
  · rintro ⟨user, ws, s, hactor, hcheck, hbefore, hshows, hchange, hwritable, rfl⟩
    simp only [edit, Action.perform_bind_eq_ok, Action.perform_ofExcept, Action.perform_now,
      Usecase.perform_run_eq_ok htransactional, Prod.mk.injEq, Operator.actor_eq_ok]
    refine ⟨user, _, ⟨hactor, rfl⟩, _, _, ⟨rfl, rfl⟩, hcheck, s.1.putWorkspace ws', s.2, _, ?_,
      Store.commit_of_writable hwritable _, rfl⟩
    simp only [ends_bind, ends_ofExcept, ends_query, ends_command, ends_pure]
    exact ⟨_, _, ⟨hbefore, rfl⟩, ws, _, ⟨Query.answer_workspace.2 hshows, rfl⟩, ws', s, hchange, (),
      _, ⟨_, Command.apply_saveWorkspaces.2 rfl, rfl⟩, rfl, rfl⟩

/-- A workspace that has just changed comes under the default policy of the operator if it has none,
and nothing else happens to it. -/
theorem withDefaultPolicy_of_stamped {now : Time.Instant} {ws : Workspace}
    (hstamp : ws.updatedAt = now) :
    withDefaultPolicy operator now ws =
      { ws with policy := ws.policy.or operator.defaultPolicy } := by
  rw [withDefaultPolicy_eq, ← hstamp, ite_self]

/-- A turn of the sweep that takes the bindings to a workspace from users. -/
def unbinding (id : WorkspaceId) (p : Permittable) (_ : PUnit) : Program (ForInStep PUnit) :=
  if (p.removeWorkspace id).2 then do
    Program.command (.savePermittable (p.removeWorkspace id).1)
    pure (.yield ⟨⟩)
  else pure (.yield ⟨⟩)

/-- The sweep over the permittables of some users takes their bindings to a workspace from them. -/
theorem tables_of_unbinding {ids : Nat → String} {s s' : Draft × Nat} {u v : PUnit}
    (id : WorkspaceId) (hfiled : s.1.tables.Filed) {leaving : List UserId}
    (hends : (forIn (s.1.tables.permittables.values.filter (·.user ∈ leaving)) u
      (unbinding id)).Ends ids s v s') :
    s'.2 = s.2 ∧ s'.1.tables = { s.1.tables with
      permittables := s.1.tables.permittables.mapRows fun p =>
        if p.user ∈ leaving then p.unbind [id] else p } := by
  refine (rewrites_of_forIn (fun p => if p.user ∈ leaving then p.unbind [id] else p) hfiled
    (fun p => ?_) (fun p => decide (p.user ∈ leaving)) (fun p hp => if_neg (of_decide_eq_false hp))
    rfl (fun p hp u => ?_) hends).imp_right Tables.Rewrites.eq_mapRows
  · split <;> rfl
  · have hmem : p.user ∈ leaving := of_decide_eq_true hp
    refine sweeps_save ?_ fun hkept => ?_
    · rw [if_pos hmem, Permittable.removeWorkspace_fst]
    · rw [if_pos hmem, ← Permittable.removeWorkspace_fst]
      exact Permittable.removeWorkspace_fst_eq_self hkept

/-- The sweep over the permittables of some users comes to an end if no user has two of them. -/
theorem exists_ends_unbinding (ids : Nat → String) (s : Draft × Nat) (hkeyed : s.1.tables.Keyed)
    (id : WorkspaceId) (leaving : List UserId) :
    ∃ s', (forIn (s.1.tables.permittables.values.filter (·.user ∈ leaving)) PUnit.unit
      (unbinding id)).Ends ids s ⟨⟩ s' := by
  have hitems : ∀ p ∈ s.1.tables.permittables.values.filter (·.user ∈ leaving),
      s.1.tables.permittables.get? p.id = some p := by
    intro p hp
    obtain ⟨key, hkey⟩ := Table.mem_values_iff.1 (List.mem_filter.1 hp).1
    rw [hkeyed.permittables hkey, hkey]
  exact exists_ends_forIn hkeyed (·.removeWorkspace id) (fun _ => rfl) (fun _ => rfl) hitems
    fun hq => ⟨_, hq, rfl, rfl⟩

/-- What is done to a workspace when users are taken out of it. -/
def takingOut (id : WorkspaceId) (operator : Operator) (targets : List UserId) (user : UserId)
    (now : Time.Instant) (ws : Workspace) : Program Workspace := do
  let ws ← Program.ofExcept (targets.foldlM (takeOut user now) ws)
  if (ws.members.usersByRole .owner).isEmpty then throw .ownerCannotLeave
  for p in ← .query (.permittablesOf targets) do
    let (rest, changed) := p.removeWorkspace id
    if changed then Program.command (.savePermittable rest)
  return withDefaultPolicy operator now ws

/-- This is done when members are taken out of a workspace. -/
theorem removeMultipleUserMembers_eq (id : WorkspaceId) (members : List UserId)
    (operator : Operator) :
    removeMultipleUserMembers id members operator = (do
      let _ ← Action.ofExcept operator.actor
      if (distinct members).isEmpty then throw .noSpecifiedUsers
      edit { requirements := { readable := some [id] }, transactional := true } id operator unchecked
        (takingOut id operator (distinct members))) :=
  rfl

section TakingOut

variable {ids : Nat → String} {s s' : Draft × Nat} {user : UserId} {now : Time.Instant}
  {ws : Workspace} {targets : List UserId} (hkeyed : s.1.tables.Keyed) (hnodup : targets.Nodup)
  (hsome : targets ≠ [])

include hkeyed hnodup hsome

/-- When this ends well, the user was entitled to it, and the users have lost their bindings. -/
theorem parts_of_takingOut (hends : (takingOut id operator targets user now ws).Ends ids s ws' s') :
    ws.members.Parts user targets ∧
      ws' = withDefaultPolicy operator now
        { ws with members := ws.members.without targets, updatedAt := now } ∧
      s'.2 = s.2 ∧ s'.1.tables = { s.1.tables with
        permittables := s.1.tables.permittables.mapRows fun p =>
          if p.user ∈ targets then p.unbind [id] else p } := by
  rw [takingOut, ends_bind] at hends
  obtain ⟨left, s₁, hfirst, hends⟩ := hends
  obtain ⟨hfold, rfl⟩ := ends_ofExcept.1 hfirst
  split at hends
  · simp at hends
  rename_i howner
  simp only [ends_bind, ends_query, ends_pure] at hends
  obtain ⟨permittables, _, ⟨hanswer, rfl⟩, _, _, hloop, rfl, rfl⟩ := hends
  obtain rfl := ok_eq_ok_comm.1 hanswer
  obtain ⟨owner, hremains⟩ := List.exists_mem_of_ne_nil _ (mt List.isEmpty_iff.2 howner)
  obtain ⟨hparts, rfl⟩ := (foldlM_takeOut_eq_ok_iff hnodup hsome).1
    ⟨hfold, owner, Members.mem_owners_iff.1 hremains⟩
  exact ⟨hparts, rfl, tables_of_unbinding id hkeyed.filed hloop⟩

/-- When the user is entitled to it, this ends well. -/
theorem exists_ends_takingOut (ids : Nat → String) (hparts : ws.members.Parts user targets) :
    ∃ s', (takingOut id operator targets user now ws).Ends ids s
      (withDefaultPolicy operator now
        { ws with members := ws.members.without targets, updatedAt := now }) s' := by
  obtain ⟨hfold, owner, hremains⟩ :=
    (foldlM_takeOut_eq_ok_iff hnodup hsome).2 ⟨hparts, rfl⟩
  have howners := List.ne_nil_of_mem (Members.mem_owners_iff.2 hremains)
  obtain ⟨s', hloop⟩ := exists_ends_unbinding ids s hkeyed id targets
  refine ⟨s', ends_bind.2 ⟨_, s, ends_ofExcept.2 ⟨hfold, rfl⟩, ?_⟩⟩
  rw [if_neg (mt List.isEmpty_iff.1 howners)]
  simp only [ends_bind, ends_query, ends_pure, true_and]
  exact ⟨_, _, ⟨rfl, rfl⟩, ⟨⟩, s', hloop, rfl⟩

end TakingOut

end Workspaces

/-! ## What is left behind -/

/-- A workspace once some users have been taken out. -/
def Workspace.afterRemoval (operator : Operator) (now : Time.Instant) (leaving : List UserId)
    (row : Workspace) : Workspace :=
  { row with
    name := titled row.name
    members := row.members.without leaving
    policy := row.policy.or operator.defaultPolicy
    updatedAt := now }

/-- The workspace is the same one. -/
@[simp]
theorem Workspace.afterRemoval_id (operator : Operator) (now : Time.Instant) (leaving : List UserId)
    (row : Workspace) : (row.afterRemoval operator now leaving).id = row.id := by
  simp only [afterRemoval]

/-- The tables once some users have been taken out of a workspace. -/
def Tables.afterRemoval (operator : Operator) (now : Time.Instant) (leaving : List UserId)
    (row : Workspace) (t : Tables) : Tables :=
  { t with
    workspaces := t.workspaces.insert row.id (row.afterRemoval operator now leaving)
    permittables := t.permittables.mapRows fun p =>
      if p.user ∈ leaving then p.unbind [row.id] else p }

/-- The directory once some users have been taken out of a workspace and this has been committed. -/
def Directory.afterRemoval (operator : Operator) (now : Time.Instant) (leaving : List UserId)
    (row : Workspace) (directory : Directory) : Directory :=
  { directory with
    store := directory.store.holding (directory.store.tables.afterRemoval operator now leaving row) }

/-- When the bindings have been taken from the users, the workspace is filed. -/
theorem Tables.afterRemoval_eq (operator : Operator) (now : Time.Instant) (leaving : List UserId)
    (row : Workspace) (t : Tables) :
    Tables.fileWorkspace
        { t with permittables := t.permittables.mapRows fun p =>
            if p.user ∈ leaving then p.unbind [row.id] else p }
        (row.afterRemoval operator now leaving) =
      t.afterRemoval operator now leaving row := by
  simp only [fileWorkspace, afterRemoval, Workspace.afterRemoval_id]

namespace Workspaces

open Program

variable {operator : Operator} {moment : Moment} {directory directory' : Directory}
  {id : WorkspaceId} {ws' : Workspace}

/-- Once users have left, the default policy makes of the workspace what is left behind. -/
theorem withDefaultPolicy_without (now : Time.Instant) (leaving : List UserId) (row : Workspace) :
    withDefaultPolicy operator now
        { row with
          name := Workspace.titled row.name
          members := row.members.without leaving
          updatedAt := now } =
      row.afterRemoval operator now leaving := by
  have hleft : ({ row with
      name := Workspace.titled row.name
      members := row.members.without leaving
      updatedAt := now } : Workspace).updatedAt = now := by
    dsimp only
  rw [withDefaultPolicy_of_stamped hleft, Workspace.afterRemoval]

/-- Members are taken out exactly when there are any to be taken out, the operator is a user within
whose reach the workspace is, the workspace is given out, the user may take the members out, and the
snapshot can be written. -/
theorem removeMultipleUserMembers_eq_ok (hkeyed : directory.store.tables.Keyed)
    {members : List UserId} :
    (removeMultipleUserMembers id members operator).perform moment directory = (.ok ws', directory') ↔
      members ≠ [] ∧ directory.store.Writable moment ∧ ∃ user row, operator.user = some user ∧
        id ∈ operator.allReadable ∧ directory.store.tables.workspaces.get? id = some row ∧
        row.Restorable ∧ row.members.Parts user (distinct members) ∧
        ws' = row.afterRemoval operator moment.now (distinct members) ∧
        directory' = directory.afterRemoval operator moment.now (distinct members) row := by
  have hnodup := nodup_distinct members
  rw [removeMultipleUserMembers_eq, Action.perform_bind_eq_ok]
  simp only [Action.perform_ofExcept, Prod.mk.injEq]
  constructor
  · rintro ⟨_, _, ⟨-, rfl⟩, h⟩
    split at h
    · simp at h
    rename_i hsome
    obtain ⟨user, ws, s, hactor, hcheck, -, ⟨row, hrow, hrestore⟩, hends, hwritable, rfl⟩ :=
      (perform_edit_eq_ok rfl).1 h
    obtain ⟨hfit, rfl⟩ := Workspace.restore_eq_ok.1 hrestore
    obtain ⟨hparts, hws, hdrawn, htables⟩ :=
      parts_of_takingOut hkeyed hnodup (mt List.isEmpty_iff.2 hsome) hends
    dsimp only at hws
    rw [withDefaultPolicy_without] at hws
    have hown := hkeyed.workspaces hrow
    refine ⟨?_, hwritable, user, row, hactor, check_readable.1 hcheck, hrow, hfit, hparts, hws, ?_⟩
    · rintro rfl
      exact hsome rfl
    · rw [hws, hdrawn, htables, ← hown, Tables.afterRemoval_eq]
      rfl
  · rintro ⟨hsome, hwritable, user, row, hactor, hreadable, hrow, hfit, hparts, rfl, rfl⟩
    have hown := hkeyed.workspaces hrow
    have htargets : distinct members ≠ [] := mt distinct_eq_nil.1 hsome
    let ws : Workspace := { row with name := Workspace.titled row.name }
    refine ⟨user, directory, ⟨Operator.actor_eq_ok.2 hactor, rfl⟩, ?_⟩
    rw [if_neg (mt List.isEmpty_iff.1 htargets)]
    obtain ⟨s, hends⟩ := @exists_ends_takingOut operator id (Usecase.opening directory) user
      moment.now ws _ hkeyed hnodup htargets moment.ids hparts
    obtain ⟨-, -, hdrawn, htables⟩ := parts_of_takingOut hkeyed hnodup htargets hends
    dsimp only [ws] at hends
    rw [withDefaultPolicy_without] at hends
    refine (perform_edit_eq_ok rfl).2 ⟨user, ws, s, hactor, check_readable.2 hreadable, rfl,
      ⟨row, hrow, Workspace.restore_eq_ok.2 ⟨hfit, rfl⟩⟩, hends, hwritable, ?_⟩
    rw [hdrawn, htables, ← hown, Tables.afterRemoval_eq]
    rfl

/-- Whoever takes users out, as long as they are among different users, does so as one of three: the
only one who goes, an owner who stays, or an owner who goes last. -/
theorem entitled_iff {P : Prop} {user : UserId} {leaving : List UserId} (hnodup : leaving.Nodup)
    (hsome : leaving ≠ []) :
    (∀ member ∈ leaving, member = user) ∨ (P ∧ user ∉ leaving.dropLast) ↔
      leaving = [user] ∨ (P ∧ user ∉ leaving) ∨ (P ∧ leaving.getLast? = some user) := by
  obtain ⟨before, last, rfl⟩ := (List.eq_nil_or_concat' leaving).resolve_left hsome
  have hlast : last ∉ before := fun hmem =>
    (List.nodup_append.1 hnodup).2.2 last hmem last (List.mem_singleton_self last) rfl
  have halone : (∀ member ∈ before ++ [last], member = user) ↔ before ++ [last] = [user] := by
    constructor
    · intro hall
      have hbefore := Members.dropLast_eq_nil_of_nodup hnodup user hall
      rw [List.dropLast_concat] at hbefore
      rw [hbefore, List.nil_append, hall last (by simp)]
    · intro heq member hmember
      rw [heq] at hmember
      exact List.mem_singleton.1 hmember
  rw [halone, List.dropLast_concat, List.getLast?_concat, Option.some.injEq, List.mem_append,
    List.mem_singleton, ← and_or_left]
  refine or_congr_right (and_congr_right fun _ => ?_)
  by_cases hself : last = user
  · exact iff_of_true (hself ▸ hlast) (.inr hself)
  · simp [hself, Ne.symm hself]

/-- Some users have been taken out of a workspace. Nothing else has changed in the tables but that
they have lost their bindings to the workspace, and that it has come under the default policy of the
operator if it had no policy. -/
structure TakenOut (operator : Operator) (now : Time.Instant) (targets : List UserId)
    (row : Workspace) (t t' : Tables) : Prop where
  workspace : ∃ members policy, t'.workspaces.get? row.id = some
      { row with name := Workspace.titled row.name, members, policy, updatedAt := now } ∧
    (∀ user, members.users.get? user = if user ∈ targets then none else row.members.users.get? user) ∧
    members.integrations = row.members.integrations ∧ members.fixed = row.members.fixed ∧
    policy = row.policy.or operator.defaultPolicy
  workspaces : ∀ other, other ≠ row.id → t'.workspaces.get? other = t.workspaces.get? other
  permittables : ∀ key, t'.permittables.get? key = (t.permittables.get? key).map fun p =>
    if p.user ∈ targets then { p with bindings := p.bindings.filter (·.workspace ≠ row.id) } else p
  users : t'.users = t.users
  roles : t'.roles = t.roles

/-- This is what is left behind when some users have been taken out. -/
theorem takenOut_afterRemoval (now : Time.Instant) (targets : List UserId) (row : Workspace)
    (t : Tables) :
    TakenOut operator now targets row t (t.afterRemoval operator now targets row) where
  workspace := ⟨row.members.without targets, _, (Table.get?_insert ..).trans (if_pos rfl),
    row.members.get?_without targets, rfl, rfl, rfl⟩
  workspaces other hother := by rw [Tables.afterRemoval, Table.get?_insert, if_neg hother.symm]
  permittables key := by
    simp only [Tables.afterRemoval, Table.get?_mapRows, Permittable.unbind, List.mem_singleton]
  users := rfl
  roles := rfl

/-- Where rows are filed under their own ids, every workspace can be restored, no user has two
permittables and the snapshot can be written, a user within whose reach a workspace is takes members
out of it exactly when there are any to be taken out, the workspace is not personal, all of them are
members, another owner stays, and the user is the only one who goes, or an owner who stays or goes
last. Then nobody else goes, and nothing else is touched. -/
theorem takes_out_iff (moment : Moment) (directory : Directory)
    (hkeyed : directory.store.tables.Keyed)
    (hrestores : ∀ {id ws}, directory.store.tables.workspaces.get? id = some ws →
      ∃ restored, ws.restore = .ok restored)
    (hwritable : directory.store.Writable moment) {user : UserId} (huser : operator.user = some user)
    (hreadable : id ∈ operator.allReadable) {row : Workspace}
    (hrow : directory.store.tables.workspaces.get? id = some row) (members : List UserId) :
    let targets := distinct members
    let outcome := (removeMultipleUserMembers id members operator).perform moment directory
    ((∃ ws directory', outcome = (.ok ws, directory')) ↔
      targets ≠ [] ∧ row.isPersonal = false ∧
        (∀ member ∈ targets, row.members.users.contains member = true) ∧
        (∃ owner, owner ∉ targets ∧ row.members.userRole? owner = some .owner) ∧
        (targets = [user] ∨ (row.members.userRole? user = some .owner ∧ user ∉ targets) ∨
          (row.members.userRole? user = some .owner ∧ targets.getLast? = some user))) ∧
    ∀ ws directory', outcome = (.ok ws, directory') →
      TakenOut operator moment.now targets row directory.store.tables directory'.store.tables ∧
        directory'.store = directory.store.holding directory'.store.tables := by
  intro targets outcome
  have hfit := Workspace.exists_restore_iff.1 (hrestores hrow)
  have hown := hkeyed.workspaces hrow
  constructor
  · constructor
    · rintro ⟨ws, directory', hok⟩
      obtain ⟨hsome, -, user', row', huser', -, hrow', -, hparts, -⟩ :=
        (removeMultipleUserMembers_eq_ok hkeyed).1 hok
      obtain rfl := Option.some.inj (huser.symm.trans huser')
      obtain rfl := Option.some.inj (hrow.symm.trans hrow')
      have htargets := mt distinct_eq_nil.1 hsome
      exact ⟨htargets, hparts.team, hparts.present, hparts.owner,
        (entitled_iff (nodup_distinct members) htargets).1 hparts.entitled⟩
    · rintro ⟨htargets, hteam, hpresent, howner, hentitled⟩
      have hparts : row.members.Parts user targets := ⟨hteam, hpresent, howner,
        (entitled_iff (nodup_distinct members) htargets).2 hentitled⟩
      exact ⟨_, _, (removeMultipleUserMembers_eq_ok hkeyed).2 ⟨mt distinct_eq_nil.2 htargets,
        hwritable, user, row, huser, hreadable, hrow, hfit, hparts, rfl, rfl⟩⟩
  · intro ws directory' hok
    obtain ⟨-, -, user', row', -, -, hrow', -, -, -, rfl⟩ :=
      (removeMultipleUserMembers_eq_ok hkeyed).1 hok
    obtain rfl := Option.some.inj (hrow.symm.trans hrow')
    exact ⟨takenOut_afterRemoval moment.now targets row directory.store.tables, rfl⟩

end Workspaces

/-! ### A crew with two owners -/

namespace Workspaces.Crew

/-- Olga and otto own the crew, and dave writes for it. -/
def crew : Workspace where
  id := ⟨"crew"⟩
  name := "Crew"
  aliasName := ""
  email := ""
  profile := {}
  members :=
    { users := ((Table.empty.insert ⟨"olga"⟩ (.new .owner ⟨"olga"⟩)).insert ⟨"otto"⟩
        (.new .owner ⟨"olga"⟩)).insert ⟨"dave"⟩ (.new .writer ⟨"otto"⟩)
      integrations := ∅
      fixed := false }
  policy := none
  updatedAt := .epoch

/-- What dave holds in the crew and elsewhere. -/
def grants : Permittable where
  id := ⟨"grants"⟩
  user := ⟨"dave"⟩
  roles := []
  bindings := [⟨crew.id, ⟨"cook"⟩⟩, ⟨⟨"band"⟩, ⟨"drummer"⟩⟩]

/-- The crew and its grants. -/
def directory : Directory where
  store :=
    { tables :=
        { workspaces := Table.empty.insert crew.id crew
          permittables := Table.empty.insert grants.id grants }
      file := none
      attached := false }

/-- Olga, who owns the crew. -/
def olga : Operator :=
  { user := some ⟨"olga"⟩, owning := [crew.id] }

/-- The crew can be restored, and nothing else is stored. -/
theorem exists_restore {id : WorkspaceId} {ws : Workspace}
    (h : directory.store.tables.workspaces.get? id = some ws) :
    ∃ restored, ws.restore = .ok restored := by
  obtain ⟨-, rfl⟩ | ⟨-, h⟩ := Table.get?_insert_eq_some.1 h
  · exact Workspace.exists_restore_iff.2 ⟨by decide, nofun⟩
  · exact nomatch h

/-- Olga can take dave out and then herself, but not herself and then dave. -/
theorem takes_out_farewell :
    (∃ ws directory',
      (removeMultipleUserMembers crew.id [⟨"dave"⟩, ⟨"olga"⟩, ⟨"dave"⟩] olga).perform .epoch
        directory = (.ok ws, directory') ∧
      TakenOut olga Moment.epoch.now [⟨"dave"⟩, ⟨"olga"⟩] crew directory.store.tables
        directory'.store.tables) ∧
    ¬ ∃ ws directory',
      (removeMultipleUserMembers crew.id [⟨"olga"⟩, ⟨"dave"⟩] olga).perform .epoch directory =
        (.ok ws, directory') := by
  have hkeyed : directory.store.tables.Keyed := by decide
  have hwritable : directory.store.Writable .epoch := nofun
  have hreadable : crew.id ∈ olga.allReadable := by decide
  obtain ⟨hfirst, htaken⟩ := takes_out_iff .epoch directory hkeyed exists_restore hwritable rfl
    hreadable rfl [⟨"dave"⟩, ⟨"olga"⟩, ⟨"dave"⟩]
  obtain ⟨hsecond, -⟩ := takes_out_iff .epoch directory hkeyed exists_restore hwritable rfl
    hreadable rfl [⟨"olga"⟩, ⟨"dave"⟩]
  constructor
  · obtain ⟨ws, directory', hok⟩ := hfirst.2
      ⟨by decide, rfl, by decide, ⟨⟨"otto"⟩, by decide, rfl⟩, .inr (.inr ⟨rfl, by decide⟩)⟩
    exact ⟨ws, directory', hok, (htaken ws directory' hok).1⟩
  · rw [hsecond]
    rintro ⟨-, -, -, -, hentitled⟩
    exact absurd hentitled (by decide)

end Workspaces.Crew

end Roster
