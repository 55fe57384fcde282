import Roster.Proofs.Ownership

/-!
# What an operation on a workspace leaves alone

An operation on a stored workspace has its footprint within this workspace: no other workspace, no
user and no access role is touched by it. Permittables lose at most bindings to the workspace, all of
them when it is removed and those of the users who are taken out of it otherwise.
-/

namespace Roster

namespace Operation

/-- The stored workspace that an operation changes or removes, if it is an operation on one. -/
def about? : Operation → Option WorkspaceId
  | updateWorkspace id _ | addUserMember id _ | addIntegrationMember id _ _
  | updateUserMember id _ _ | updateIntegrationMember id _ _ | removeUserMember id _
  | removeMultipleUserMembers id _ | removeIntegration id _ | removeIntegrations id _
  | transferOwnership id _ | removeWorkspace id => some id
  | _ => none

/-- Whether an operation on a workspace takes what a user holds within it: from everybody when it is
removed, and otherwise from those who are taken out of it. -/
def strips (user : UserId) : Operation → Bool
  | removeWorkspace _ => true
  | removeUserMember _ member => user ∈ [member]
  | removeMultipleUserMembers _ members => user ∈ members
  | _ => false

variable {operation : Operation} {id : WorkspaceId} {leaving : List UserId}

/-- An owner's change is an operation on the changed workspace, and takes nothing from anybody. -/
theorem about?_of_edited (h : operation.edited? = some id) :
    operation.about? = some id ∧ ∀ user, operation.strips user = false := by
  cases operation <;> cases h <;> exact ⟨rfl, fun _ => rfl⟩

/-- Taking users out is an operation on the workspace they are taken out of, and takes what these
users hold within it. -/
theorem about?_of_leaving (h : operation.leaving? = some (id, leaving)) :
    operation.about? = some id ∧ ∀ user, operation.strips user = decide (user ∈ leaving) := by
  cases operation <;> cases h <;> exact ⟨rfl, fun _ => rfl⟩

end Operation

/-- Two permittables differ in nothing but bindings to one workspace. -/
structure Permittable.AlikeBeyond (workspace : WorkspaceId) (p p' : Permittable) : Prop where
  id : p'.id = p.id
  user : p'.user = p.user
  roles : p'.roles = p.roles
  bindings : p'.bindings.filter (·.workspace ≠ workspace) =
    p.bindings.filter (·.workspace ≠ workspace)

/-- What is done to the tables is done within one workspace: to its row, and to what some users hold
within it, which is taken from them. -/
structure Tables.ChangesWithin (id : WorkspaceId) (stripped : UserId → Bool) (t t' : Tables) :
    Prop where
  /-- Under every other id there is the workspace that was there, or none as before. -/
  workspaces : ∀ other, other ≠ id → t'.workspaces.get? other = t.workspaces.get? other
  users : t'.users = t.users
  roles : t'.roles = t.roles
  /-- A stripped user has lost exactly the bindings to the workspace, and nobody else anything. -/
  permittables : ∀ key, t'.permittables.get? key = (t.permittables.get? key).map fun p =>
    if stripped p.user then p.unbind [id] else p

/-- Taking away the bindings to a workspace leaves everything beyond it. -/
theorem Permittable.alikeBeyond_unbind (p : Permittable) (id : WorkspaceId) :
    p.AlikeBeyond id (p.unbind [id]) where
  id := rfl
  user := rfl
  roles := rfl
  bindings := by simp [unbind, List.filter_filter]

namespace Tables.ChangesWithin

variable {t t' base : Tables} {id : WorkspaceId} {stripped : UserId → Bool}

/-- Changing nothing is a change within any workspace, if nobody is stripped. -/
theorem of_nobody (hnobody : ∀ user, stripped user = false) : t.ChangesWithin id stripped t where
  workspaces := fun _ _ => rfl
  users := rfl
  roles := rfl
  permittables := fun key => by simp [hnobody]

/-- Taking bindings to a workspace away is a change within it. -/
theorem of_rewrites
    (hrewrites : base.Rewrites (fun p => if stripped p.user then p.unbind [id] else p) t')
    (hworkspaces : ∀ other, other ≠ id → base.workspaces.get? other = t.workspaces.get? other)
    (hrest : base = { t with workspaces := base.workspaces }) : t.ChangesWithin id stripped t' where
  workspaces := fun other hother => by
    rw [hrewrites.workspaces, hworkspaces other hother]
  users := by
    rw [hrewrites.users, hrest]
  roles := by
    rw [hrewrites.roles, hrest]
  permittables := fun key => by
    rw [hrewrites.permittables, hrest]

/-- Filing the workspace is a change within it. -/
theorem fileWorkspace (h : t.ChangesWithin id stripped t') {ws : Workspace} (hid : ws.id = id) :
    t.ChangesWithin id stripped (t'.fileWorkspace ws) :=
  { h with
    workspaces := fun other hother => by
      rw [Tables.fileWorkspace, Table.get?_insert, hid, if_neg hother.symm,
        h.workspaces other hother] }

/-- Whoever has a permittable before has one like it afterwards: only what is bound to the workspace
may be missing. -/
theorem alikeBeyond (h : t.ChangesWithin id stripped t') {key : PermittableId} {p : Permittable}
    (hp : t.permittables.get? key = some p) :
    ∃ p', t'.permittables.get? key = some p' ∧ p.AlikeBeyond id p' := by
  rw [h.permittables, hp, Option.map_some]
  refine ⟨_, rfl, ?_⟩
  split
  · exact p.alikeBeyond_unbind id
  · exact ⟨rfl, rfl, rfl, rfl⟩

end Tables.ChangesWithin

namespace Operation

variable {operator held : Operator} {operation : Operation} {t t' : Tables} {id : WorkspaceId}
  {defaultPolicy : Option PolicyId} {moment : Moment} {directory directory' : Directory}

/-- An operation on a workspace changes the tables within it. -/
theorem Effect.changesWithin (h : Effect operator t operation held t') (hfiled : t.Filed)
    (habout : operation.about? = some id) :
    t.ChangesWithin id (operation.strips ·) t' := by
  cases h with
  | edit hedited heffect =>
    obtain ⟨habout', hnobody⟩ := about?_of_edited hedited
    obtain rfl := Option.some.inj (habout'.symm.trans habout)
    obtain ⟨-, -, hshows, hid⟩ := heffect
    exact (Tables.ChangesWithin.of_nobody hnobody).fileWorkspace (hid.trans (hfiled.id_of_shows hshows))
  | leave hleaving heffect =>
    obtain ⟨habout', hstripped⟩ := about?_of_leaving hleaving
    obtain rfl := Option.some.inj (habout'.symm.trans habout)
    obtain ⟨-, hshows, hid, -, -, hrewrites⟩ := heffect
    have hwithin : t.ChangesWithin _ (operation.strips ·) _ :=
      .of_rewrites (by simpa only [hstripped, decide_eq_true_eq] using hrewrites) (fun _ _ => rfl) rfl
    exact hwithin.fileWorkspace (hid.trans (hfiled.id_of_shows hshows))
  | removeWorkspace heffect =>
    obtain rfl := Option.some.inj habout
    obtain ⟨-, -, -, -, hrewrites⟩ := heffect
    refine .of_rewrites hrewrites (fun other hother => ?_) rfl
    rw [Table.get?_erase, if_neg hother.symm]
  | _ => exact nomatch habout

/-- An operation on a workspace that succeeds leaves all other workspaces, all users and all access
roles alone. The permittables are those that were there, with what they say beyond the workspace; only
from the users whom the operation strips are their bindings to it taken. -/
theorem changes_within (hfiled : directory.store.tables.Filed) (habout : operation.about? = some id)
    (h : (operation.act defaultPolicy operator).perform moment directory = (.ok held, directory')) :
    directory.store.tables.ChangesWithin id (operation.strips ·) directory'.store.tables ∧
      ∀ key p, directory.store.tables.permittables.get? key = some p →
        ∃ p', directory'.store.tables.permittables.get? key = some p' ∧ p.AlikeBeyond id p' := by
  have hwithin := (effect_of_perform hfiled h).changesWithin hfiled habout
  exact ⟨hwithin, fun _ _ => hwithin.alikeBeyond⟩

end Operation

/-! ### Leaving one of two teams -/

namespace Operation.TwoTeams

/-- A team that olga owns, with dave as a member. -/
def team (name : String) : Workspace where
  id := ⟨name⟩
  name := name
  aliasName := ""
  email := ""
  profile := {}
  members :=
    { users := (Table.empty.insert ⟨"olga"⟩ (.new .owner ⟨"olga"⟩)).insert ⟨"dave"⟩
        (.new .writer ⟨"olga"⟩)
      integrations := ∅
      fixed := false }
  policy := none
  updatedAt := .epoch

/-- What dave holds in the crew, in the band and everywhere. -/
def grants : Permittable where
  id := ⟨"grants"⟩
  user := ⟨"dave"⟩
  roles := [⟨"guest"⟩]
  bindings := [⟨⟨"crew"⟩, ⟨"cook"⟩⟩, ⟨⟨"band"⟩, ⟨"drummer"⟩⟩]

/-- The crew, the band and the grants. -/
def directory : Directory where
  store :=
    { tables :=
        { workspaces := (Table.empty.insert ⟨"crew"⟩ (team "crew")).insert ⟨"band"⟩ (team "band")
          permittables := Table.empty.insert grants.id grants }
      file := none
      attached := false }

/-- Olga, who owns both teams. -/
def olga : Operator :=
  { user := some ⟨"olga"⟩, owning := [⟨"crew"⟩, ⟨"band"⟩] }

/-- Dave is taken out of the crew. -/
def farewell : Operation :=
  .removeUserMember ⟨"crew"⟩ ⟨"dave"⟩

/-- When dave has been taken out of the crew, the band is as it was and so is what he holds there. -/
theorem changes_within_crew :
    ∃ directory', (farewell.act none olga).perform .epoch directory = (.ok olga, directory') ∧
      directory'.store.tables.workspaces.get? ⟨"band"⟩ = some (team "band") ∧
      directory'.store.tables.permittables.get? grants.id =
        some { grants with bindings := [⟨⟨"band"⟩, ⟨"drummer"⟩⟩] } := by
  have hdone : (farewell.act none olga).perform .epoch directory =
      (.ok olga, ((farewell.act none olga).perform .epoch directory).2) := rfl
  have hfiled : directory.store.tables.Filed := by decide
  have habout : farewell.about? = some ⟨"crew"⟩ := rfl
  obtain ⟨hwithin, -⟩ := changes_within hfiled habout hdone
  refine ⟨_, hdone, ?_, ?_⟩
  · rw [hwithin.workspaces ⟨"band"⟩ (by decide)]
    rfl
  · rw [hwithin.permittables]
    rfl

end Operation.TwoTeams

end Roster
