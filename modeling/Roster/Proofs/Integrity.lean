import Roster.Proofs.Effects

/-!
# Integrity of the directory

The four tables refer to each other: workspaces to the users who are their members, users to
their personal workspaces, permittables to users, workspaces and access roles. Whoever asks for
what, every operation keeps all of these references alive, so they hold along every run.
-/

namespace Roster

/-- A workspace is the home of a user: it is personal, they are its only user and own it, and it
bears their name. -/
structure Workspace.HomeOf (home : Workspace) (user : User) : Prop where
  personal : home.isPersonal = true
  sole : ∃ member, home.members.users.rows = [(user.id, member)] ∧ member.role = .owner
  name : home.name = user.name

/-- Every row is filed under its own id and everything that a row refers to is there. -/
structure Tables.Intact (t : Tables) : Prop extends t.Keyed where
  restorable : ∀ {id ws}, t.workspaces.get? id = some ws → ∃ restored, ws.restore = .ok restored
  members : ∀ {id ws user}, t.workspaces.get? id = some ws →
    ws.members.users.contains user = true → t.users.contains user = true
  homes : ∀ {id user}, t.users.get? id = some user →
    ∃ home, t.workspaces.get? user.workspace = some home ∧ home.HomeOf user
  holders : ∀ {id p}, t.permittables.get? id = some p → t.users.contains p.user = true
  heldRoles : ∀ {id p role}, t.permittables.get? id = some p → role ∈ p.roles →
    t.roles.contains role = true
  bindings : ∀ {id p binding}, t.permittables.get? id = some p → binding ∈ p.bindings →
    t.workspaces.contains binding.workspace = true ∧ t.roles.contains binding.role = true

/-- The tables are intact, and no user has a name that their home could not bear: restoring a
workspace does not change such a name. -/
structure Tables.Sound (t : Tables) : Prop extends t.Intact where
  titled : ∀ {id user}, t.users.get? id = some user → Workspace.titled user.name = user.name

namespace Workspace

/-- A workspace that takes the place of another: the same one, personal or not as before, with
users who were there or have an account; if it is personal, then with the same users and name. -/
structure Succeeds (t : Tables) (ws ws' : Workspace) : Prop where
  id : ws'.id = ws.id
  fixed : ws'.isPersonal = ws.isPersonal
  personal : ws.isPersonal = true → ws.members.SameUsers ws'.members ∧ ws'.name = ws.name
  users : ∀ {user}, ws'.members.users.contains user = true →
    ws.members.users.contains user = true ∨ t.users.contains user = true

variable {t : Tables} {ws ws' : Workspace}

/-- Only a personal workspace is anybody's home, so only its users and its name matter. -/
theorem HomeOf.of_sameUsers {user user' : User} (h : ws.HomeOf user)
    (husers : ws.members.SameUsers ws'.members) (hid : user'.id = user.id)
    (hname : ws'.name = user'.name) : ws'.HomeOf user' where
  personal := husers.2.trans h.personal
  sole := by
    rw [husers.1, hid]
    exact h.sole
  name := hname

/-- The members of a team workspace may change as long as those who come have an account. -/
theorem Succeeds.of_open (hid : ws'.id = ws.id) (hbefore : ws.members.fixed = false)
    (hafter : ws'.members.fixed = false)
    (husers : ∀ {user}, ws'.members.users.contains user = true →
      ws.members.users.contains user = true ∨ t.users.contains user = true) :
    ws.Succeeds t ws' where
  id := hid
  fixed := hafter.trans hbefore.symm
  personal := fun hpersonal => nomatch hpersonal.symm.trans hbefore
  users := husers

end Workspace

namespace Members

variable {members members' : Members}

/-- The users are the same after one of them gets another role. -/
theorem Reseated.contains_iff {user : UserId} {role : Role} (h : members.Reseated user role members')
    (other : UserId) :
    members'.users.contains other = true ↔ members.users.contains other = true := by
  obtain ⟨member, hmember, husers⟩ := h.users
  rw [husers, Table.contains_insert, or_iff_right_iff_imp]
  rintro rfl
  exact Table.contains_iff.2 ⟨member, hmember⟩

end Members

/-- The members of an owner alone are the owner. -/
theorem Members.contains_ofOwner {owner user : UserId} {fixed : Bool} :
    (Members.ofOwner owner fixed).users.contains user = true ↔ owner = user := by
  rw [Members.ofOwner, Table.contains_insert, or_iff_left]
  exact nofun

namespace Permittable

/-- A permittable lists no more than another one of the same id and user. -/
structure Shrinks (p' p : Permittable) : Prop where
  id : p'.id = p.id
  user : p'.user = p.user
  roles : p'.roles ⊆ p.roles
  bindings : p'.bindings ⊆ p.bindings

/-- A permittable lists no more than itself. -/
theorem Shrinks.refl (p : Permittable) : p.Shrinks p :=
  ⟨rfl, rfl, List.Subset.refl _, List.Subset.refl _⟩

/-- Without some of its bindings, a permittable lists no more than before. -/
theorem shrinks_unbind (p : Permittable) (workspaces : List WorkspaceId) :
    (p.unbind workspaces).Shrinks p :=
  ⟨rfl, rfl, List.Subset.refl _, List.filter_subset_self _⟩

/-- Without one of its roles, a permittable lists no more than before. -/
theorem shrinks_removeRole (p : Permittable) (id : RoleId) : (p.removeRole id).1.Shrinks p :=
  ⟨rfl, rfl, List.filter_subset_self _, List.filter_subset_self _⟩

end Permittable

/-- A workspace that an owner changes succeeds itself. -/
theorem Operation.Revises.succeeds {operator : Operator} {t : Tables} {operation : Operation}
    {user : UserId} {ws ws' : Workspace} (h : operation.Revises operator t user ws ws')
    (hid : ws'.id = ws.id) : ws.Succeeds t ws' := by
  have hsame (h : ws.members.SameUsers ws'.members ∧ ws.Settled operator ws') :
      ws.Succeeds t ws' :=
    { id := hid
      fixed := h.1.2
      personal := fun _ => ⟨h.1, h.2.name⟩
      users := fun hmember => .inl (h.1.1 ▸ hmember) }
  cases operation with
  | updateWorkspace id change =>
    obtain ⟨hteam, hmembers⟩ := h
    exact .of_open hid hteam (hmembers ▸ hteam) fun hmember => .inl (hmembers ▸ hmember)
  | addUserMember id users =>
    obtain ⟨hjoined, hknown⟩ := h
    exact .of_open hid hjoined.open_before hjoined.open_after fun hmember =>
      (hjoined.users hmember).imp_right (hknown _)
  | updateUserMember id member role =>
    obtain ⟨-, -, hreseated⟩ := h
    exact .of_open hid hreseated.open_before hreseated.open_after fun hmember =>
      .inl ((hreseated.contains_iff _).1 hmember)
  | transferOwnership id newOwner =>
    obtain ⟨-, between, hpromoted, hdemoted⟩ := h
    exact .of_open hid hpromoted.open_before hdemoted.open_after fun hmember =>
      .inl ((hpromoted.contains_iff _).1 ((hdemoted.contains_iff _).1 hmember))
  | _ => exact hsame h

/-! ## Workspaces -/

namespace Tables.Sound

variable {t t' : Tables}

/-- A workspace may be filed that can be restored, whose users all exist, and that is the home of
everybody who looks for their home under its id. -/
theorem fileWorkspace (h : t.Sound) {ws : Workspace} (hfit : ws.Restorable)
    (hmembers : ∀ {user}, ws.members.users.contains user = true → t.users.contains user = true)
    (hhome : ∀ {k user}, t.users.get? k = some user → ws.id = user.workspace → ws.HomeOf user) :
    (t.fileWorkspace ws).Sound := by
  refine
    { h with
      workspaces := ?_, restorable := ?_, members := ?_, homes := ?_, bindings := ?_ }
  · intro k w hw
    obtain ⟨hk, rfl⟩ | ⟨-, hw⟩ := Tables.get?_fileWorkspace.1 hw
    · exact hk
    · exact h.workspaces hw
  · intro k w hw
    obtain ⟨-, rfl⟩ | ⟨-, hw⟩ := Tables.get?_fileWorkspace.1 hw
    · exact Workspace.exists_restore_iff.2 hfit
    · exact h.restorable hw
  · intro k w user hw hmember
    obtain ⟨-, rfl⟩ | ⟨-, hw⟩ := Tables.get?_fileWorkspace.1 hw
    · exact hmembers hmember
    · exact h.members hw hmember
  · intro k user huser
    by_cases hk : ws.id = user.workspace
    · exact ⟨ws, Tables.get?_fileWorkspace.2 (.inl ⟨hk, rfl⟩), hhome huser hk⟩
    · obtain ⟨home, hstored, hof⟩ := h.homes huser
      exact ⟨home, Tables.get?_fileWorkspace.2 (.inr ⟨hk, hstored⟩), hof⟩
  · intro k p binding hp hbinding
    obtain ⟨hworkspace, hrole⟩ := h.bindings hp hbinding
    exact ⟨Tables.contains_fileWorkspace.2 (.inr hworkspace), hrole⟩

/-- A stored workspace may be followed by one that succeeds it. -/
theorem fileSuccessor (h : t.Sound) {id : WorkspaceId} {ws ws' : Workspace} (hshows : t.Shows id ws)
    (hsucceeds : ws.Succeeds t ws') : (t.fileWorkspace ws').Sound := by
  obtain ⟨row, hrow, hfit, hrowId, hmembers, hrowName⟩ := hshows.stored
  have hid : ws'.id = row.id := hsucceeds.id.trans hrowId
  have hpersonal (hrow : row.isPersonal = true) :
      row.members.SameUsers ws'.members ∧ ws'.name = Workspace.titled row.name := by
    rw [← hmembers, ← hrowName]
    refine hsucceeds.personal ?_
    rw [Workspace.isPersonal, hmembers]
    exact hrow
  refine h.fileWorkspace ⟨hid ▸ hfit.1, fun hafter => ?_⟩ (fun hmember => ?_)
    fun {k user} huser hk => ?_
  · have hbefore : row.isPersonal = true := by
      rw [Workspace.isPersonal, ← hmembers]
      exact hsucceeds.fixed.symm.trans hafter
    exact (hfit.of_sameUsers hid (hpersonal hbefore).1).2 hafter
  · obtain hbefore | huser := hsucceeds.users hmember
    · exact h.members hrow (hmembers ▸ hbefore)
    · exact huser
  · obtain ⟨home, hhome, hof⟩ := h.homes huser
    rw [← hk, hid, h.workspaces hrow, hrow] at hhome
    obtain rfl := Option.some.inj hhome
    obtain ⟨husers, hname⟩ := hpersonal hof.personal
    refine hof.of_sameUsers husers rfl ?_
    rw [hname, hof.name, h.titled huser]

/-- An owner's change keeps the tables sound. -/
theorem of_ownerEdit (h : t.Sound) {operator : Operator} {id : WorkspaceId}
    {operation : Operation} (hedit : OwnerEdit operator id (operation.Revises operator t) t t') :
    t'.Sound := by
  obtain ⟨-, -, hshows, hid, hrevises⟩ := hedit
  exact h.fileSuccessor hshows (hrevises.succeeds hid)

/-- Permittables may lose what they list. -/
theorem rewrite (h : t.Sound) {rewrite : Permittable → Permittable} (hrewrites : t.Rewrites rewrite t')
    (hshrinks : ∀ p, (rewrite p).Shrinks p) : t'.Sound := by
  have hkeyed := h.toKeyed.of_rewrites hrewrites (fun p => (hshrinks p).id) fun p => (hshrinks p).user
  obtain ⟨hworkspaces, husers, hroles, hpermittables⟩ := hrewrites
  have hbefore {id : PermittableId} {p' : Permittable} (hp' : t'.permittables.get? id = some p') :
      ∃ p, t.permittables.get? id = some p ∧ p'.Shrinks p := by
    rw [hpermittables, Option.map_eq_some_iff] at hp'
    obtain ⟨p, hp, rfl⟩ := hp'
    exact ⟨p, hp, hshrinks p⟩
  refine
    { hkeyed with
      restorable := fun hw => h.restorable (hworkspaces ▸ hw)
      members := fun hw hmember => husers ▸ h.members (hworkspaces ▸ hw) hmember
      homes := fun hu => hworkspaces ▸ h.homes (husers ▸ hu)
      titled := fun hu => h.titled (husers ▸ hu)
      holders := ?_, heldRoles := ?_, bindings := ?_ }
  · intro id p' hp'
    obtain ⟨p, hp, hless⟩ := hbefore hp'
    rw [husers, hless.user]
    exact h.holders hp
  · intro id p' role hp' hrole
    obtain ⟨p, hp, hless⟩ := hbefore hp'
    rw [hroles]
    exact h.heldRoles hp (hless.roles hrole)
  · intro id p' binding hp' hbinding
    obtain ⟨p, hp, hless⟩ := hbefore hp'
    rw [hroles, hworkspaces]
    exact h.bindings hp (hless.bindings hbinding)

/-- Users who leave keep the tables sound. -/
theorem of_departure (h : t.Sound) {operator : Operator} {id : WorkspaceId} {leaving : List UserId}
    (hdeparture : Departure operator id leaving t t') : t'.Sound := by
  obtain ⟨-, hshows, hid, hleft, -, hrewrites⟩ := hdeparture
  have hsound := h.rewrite hrewrites fun p => by
    split
    · exact p.shrinks_unbind _
    · exact .refl p
  exact hsound.fileSuccessor (hshows.congr hrewrites.workspaces)
    (.of_open hid hleft.open_before hleft.open_after fun hmember => .inl (hleft.contains hmember))

/-- No user is at home under an id that is free. -/
theorem home_ne_of_free (h : t.Sound) {k : UserId} {user : User} (huser : t.users.get? k = some user)
    {id : WorkspaceId} (hfree : t.workspaces.get? id = none) : id ≠ user.workspace := by
  rintro rfl
  obtain ⟨home, hhome, -⟩ := h.homes huser
  rw [hfree] at hhome
  exact nomatch hhome

/-- A new team workspace of a user with an account keeps the tables sound. -/
theorem of_opening (h : t.Sound) {operator : Operator} {firstUser : UserId} {id : WorkspaceId}
    (hopening : Opening operator firstUser t id t') : t'.Sound := by
  obtain @⟨user, ws, -, hfirst, hfree, hid, hmembers, -⟩ := hopening
  have hteam : ws.isPersonal = false := by rw [Workspace.isPersonal, hmembers]; rfl
  refine h.fileWorkspace ⟨hid, fun hpersonal => ?_⟩ (fun hmember => ?_) fun huser hk => ?_
  · exact absurd hpersonal (Bool.eq_false_iff.1 hteam)
  · rw [hmembers, Members.contains_ofOwner] at hmember
    exact hmember ▸ hfirst
  · exact absurd hk (h.home_ne_of_free huser hfree)

/-- Only the home of a user has them as its sole user. -/
theorem eq_of_homes (h : t.Sound) {k k' : UserId} {user user' : User}
    (huser : t.users.get? k = some user) (huser' : t.users.get? k' = some user')
    (hsame : user.workspace = user'.workspace) : k = k' := by
  obtain ⟨home, hhome, hof⟩ := h.homes huser
  obtain ⟨home', hhome', hof'⟩ := h.homes huser'
  rw [← hsame, hhome] at hhome'
  obtain rfl := Option.some.inj hhome'
  obtain ⟨member, hrows, -⟩ := hof.sole
  obtain ⟨member', hrows', -⟩ := hof'.sole
  rw [hrows] at hrows'
  rw [← h.users huser, ← h.users huser']
  exact congrArg Prod.fst (List.cons.inj hrows').1

/-- A team workspace to which nothing is bound may go. -/
theorem eraseWorkspace (h : t.Sound) {id : WorkspaceId} {row : Workspace}
    (hrow : t.workspaces.get? id = some row) (hteam : row.isPersonal = false)
    (hunbound : ∀ {k p binding}, t.permittables.get? k = some p → binding ∈ p.bindings →
      binding.workspace ≠ id) :
    Tables.Sound { t with workspaces := t.workspaces.erase id } := by
  refine
    { h with
      workspaces := fun hw => h.workspaces (Table.get?_erase_eq_some.1 hw).2
      restorable := fun hw => h.restorable (Table.get?_erase_eq_some.1 hw).2
      members := fun hw hmember => h.members (Table.get?_erase_eq_some.1 hw).2 hmember
      homes := ?_, bindings := ?_ }
  · intro k user huser
    obtain ⟨home, hhome, hof⟩ := h.homes huser
    refine ⟨home, Table.get?_erase_eq_some.2 ⟨?_, hhome⟩, hof⟩
    rintro rfl
    rw [hrow] at hhome
    obtain rfl := Option.some.inj hhome
    exact nomatch hof.personal.symm.trans hteam
  · intro k p binding hp hbinding
    obtain ⟨hworkspace, hrole⟩ := h.bindings hp hbinding
    exact ⟨(Table.contains_erase ..).2 ⟨Ne.symm (hunbound hp hbinding), hworkspace⟩, hrole⟩

/-- A team workspace that goes with every binding to it leaves the tables sound. -/
theorem of_closure (h : t.Sound) {operator : Operator} {id : WorkspaceId}
    (hclosure : Closure operator id t t') : t'.Sound := by
  obtain ⟨-, -, hshows, hteam, hrewrites⟩ := hclosure
  obtain ⟨row, hrow, -, -, hmembers, -⟩ := hshows.stored
  have hrowTeam : row.isPersonal = false := by
    rw [Workspace.isPersonal, ← hmembers]
    exact hteam
  -- The order of the two changes does not matter: first nothing is bound to the workspace any more.
  have hunbound : t.Rewrites (·.unbind [id]) { t' with workspaces := t.workspaces } :=
    { hrewrites with workspaces := rfl }
  have hsound := (h.rewrite hunbound fun p => p.shrinks_unbind [id]).eraseWorkspace hrow hrowTeam
    (by
      intro k p binding hp hbinding
      obtain ⟨q, -, rfl⟩ := Option.map_eq_some_iff.1 ((hunbound.permittables k).symm.trans hp)
      have hkept := of_decide_eq_true (List.mem_filter.1 hbinding).2
      exact fun heq => hkept (List.mem_singleton.2 heq))
  have hworkspaces : t'.workspaces = t.workspaces.erase id := hrewrites.workspaces
  have htables : t' = { t' with workspaces := t.workspaces.erase id } := by rw [← hworkspaces]
  rw [htables]
  exact hsound

/-! ## Access roles and grants -/

/-- An access role that is filed keeps the tables sound. -/
theorem of_roleFiling (h : t.Sound) (hfiling : RoleFiling t t') : t'.Sound := by
  have hkeyed := h.toKeyed.of_roleFiling hfiling
  obtain ⟨role⟩ := hfiling
  have hthere {k : RoleId} (hk : t.roles.contains k = true) :
      (t.roles.insert role.id role).contains k = true :=
    (Table.contains_insert ..).2 (.inr hk)
  exact
    { h with
      roles := hkeyed.roles
      heldRoles := fun hp hrole => hthere (h.heldRoles hp hrole)
      bindings := fun hp hbinding => (h.bindings hp hbinding).imp_right hthere }

/-- An access role that is taken from everyone and goes leaves the tables sound. -/
theorem of_roleRemoval (h : t.Sound) {id : RoleId} (hremoval : RoleRemoval id t t') :
    t'.Sound := by
  obtain ⟨hrewrites⟩ := hremoval
  rename_i t₁
  have h₁ := h.rewrite hrewrites fun p => p.shrinks_removeRole id
  have hgone {k : PermittableId} {p : Permittable} (hp : t₁.permittables.get? k = some p) :
      (∀ role ∈ p.roles, role ≠ id) ∧ ∀ binding ∈ p.bindings, binding.role ≠ id := by
    obtain ⟨q, -, rfl⟩ := Option.map_eq_some_iff.1 ((hrewrites.permittables k).symm.trans hp)
    exact ⟨fun role hrole => of_decide_eq_true (List.mem_filter.1 hrole).2,
      fun binding hbinding => of_decide_eq_true (List.mem_filter.1 hbinding).2⟩
  have hthere {k : RoleId} (hk : t₁.roles.contains k = true) (hne : k ≠ id) :
      (t₁.roles.erase id).contains k = true :=
    (Table.contains_erase ..).2 ⟨hne.symm, hk⟩
  exact
    { h₁ with
      roles := fun hr => h₁.roles (Table.get?_erase_eq_some.1 hr).2
      heldRoles := fun hp hrole => hthere (h₁.heldRoles hp hrole) ((hgone hp).1 _ hrole)
      bindings := fun hp hbinding => ⟨(h₁.bindings hp hbinding).1,
        hthere (h₁.bindings hp hbinding).2 ((hgone hp).2 _ hbinding)⟩ }

/-- A permittable that is filed keeps the tables sound. -/
theorem of_grant (h : t.Sound) (hgrant : Grant t t') : t'.Sound := by
  have hkeyed := h.toKeyed.of_grant hgrant
  obtain ⟨-, huser, hroles, hbindings⟩ := hgrant
  refine
    { h with
      permittables := hkeyed.permittables
      onePermittable := hkeyed.onePermittable
      holders := ?_, heldRoles := ?_, bindings := ?_ }
  · intro k q hq
    obtain ⟨rfl, rfl⟩ | ⟨-, hq⟩ := Table.get?_insert_eq_some.1 hq
    · exact huser
    · exact h.holders hq
  · intro k q role hq hrole
    obtain ⟨rfl, rfl⟩ | ⟨-, hq⟩ := Table.get?_insert_eq_some.1 hq
    · obtain hthere | ⟨key, before, hbefore, hlisted⟩ := hroles role hrole
      · exact hthere
      · exact h.heldRoles hbefore hlisted
    · exact h.heldRoles hq hrole
  · intro k q binding hq hbinding
    obtain ⟨rfl, rfl⟩ | ⟨-, hq⟩ := Table.get?_insert_eq_some.1 hq
    · obtain hthere | ⟨key, before, hbefore, hlisted⟩ := hbindings binding hbinding
      · exact hthere
      · exact h.bindings hbefore hlisted
    · exact h.bindings hq hbinding

/-! ## Accounts -/

/-- A user may be filed together with a home that bears their name, in the place of another user with
their id or not, unless somebody else is at home there. -/
theorem fileUserAndHome (h : t.Sound) {user : User} {home : Workspace}
    (hhome : user.workspace = home.id) (hof : home.HomeOf user)
    (htitled : Workspace.titled user.name = user.name) (hid : home.id.text.isEmpty = false)
    (hothers : ∀ {k other}, t.users.get? k = some other → home.id = other.workspace → user.id = k) :
    ((t.fileUser user).fileWorkspace home).Sound := by
  have hthere {k : UserId} (hk : t.users.contains k = true) :
      (t.users.insert user.id user).contains k = true :=
    (Table.contains_insert ..).2 (.inr hk)
  obtain ⟨member, hrows, howner⟩ := hof.sole
  refine
    { h with
      workspaces := ?_, users := ?_, restorable := ?_, members := ?_, homes := ?_, titled := ?_
      holders := fun hp => hthere (h.holders hp), bindings := ?_ }
  · intro k w hw
    obtain ⟨hk, rfl⟩ | ⟨-, hw⟩ := Tables.get?_fileWorkspace.1 hw
    · exact hk
    · exact h.workspaces hw
  · intro k u hu
    obtain ⟨hk, rfl⟩ | ⟨-, hu⟩ := Table.get?_insert_eq_some.1 hu
    · exact hk
    · exact h.users hu
  · intro k w hw
    obtain ⟨-, rfl⟩ | ⟨-, hw⟩ := Tables.get?_fileWorkspace.1 hw
    · exact Workspace.exists_restore_iff.2
        ⟨hid, fun _ => Members.soleOwner_iff.2 ⟨_, member, hrows, howner⟩⟩
    · exact h.restorable hw
  · intro k w other hw hmember
    obtain ⟨-, rfl⟩ | ⟨-, hw⟩ := Tables.get?_fileWorkspace.1 hw
    · refine (Table.contains_insert ..).2 (.inl ?_)
      obtain ⟨row, hrow⟩ := Table.contains_iff.1 hmember
      by_contra hother
      rw [Table.get?_of_rows_eq_singleton hrows, if_neg hother] at hrow
      exact nomatch hrow
    · exact hthere (h.members hw hmember)
  · intro k u hu
    obtain ⟨-, rfl⟩ | ⟨hk, hu⟩ := Table.get?_insert_eq_some.1 hu
    · exact ⟨home, Tables.get?_fileWorkspace.2 (.inl ⟨hhome.symm, rfl⟩), hof⟩
    · obtain ⟨other, hstored, hof'⟩ := h.homes hu
      refine ⟨other, Tables.get?_fileWorkspace.2 (.inr ⟨?_, hstored⟩), hof'⟩
      exact fun hsame => hk (hothers hu hsame)
  · intro k p binding hp hbinding
    obtain ⟨hworkspace, hrole⟩ := h.bindings hp hbinding
    exact ⟨Tables.contains_fileWorkspace.2 (.inr hworkspace), hrole⟩
  · intro k u hu
    obtain ⟨-, rfl⟩ | ⟨-, hu⟩ := Table.get?_insert_eq_some.1 hu
    · exact htitled
    · exact h.titled hu

/-- A user who comes with a home of their own keeps the tables sound. -/
theorem of_arrival (h : t.Sound) (harrival : Arrival t t') : t'.Sound := by
  obtain @⟨user, home, hhome, hname, htitled, hfree, hid, hmembers, -⟩ := harrival
  refine h.fileUserAndHome hhome ⟨?_, ?_, hname⟩ htitled hid fun hother hsame => ?_
  · rw [Workspace.isPersonal, hmembers]
    rfl
  · rw [hmembers]
    exact ⟨.new .owner user.id, rfl, rfl⟩
  · exact absurd hsame (h.home_ne_of_free hother hfree)

/-- A user who changes what is stored about them keeps the tables sound. -/
theorem of_selfChange (h : t.Sound) {operator : Operator} (hchange : SelfChange operator t t') :
    t'.Sound := by
  -- Whether the home is filed again or not, it is the home of nobody else.
  have hmine {k : UserId} {user user' : User} {home : Workspace} (huser : t.users.get? k = some user)
      (hid : user'.id = user.id) (hhome : user.workspace = home.id) {l : UserId} {other : User}
      (hother : t.users.get? l = some other) (hsame : home.id = other.workspace) : user'.id = l := by
    rw [hid, h.users huser]
    exact h.eq_of_homes huser hother (hhome.trans hsame)
  cases hchange with
  | @sameName me user user' hactor huser hid hhome hname =>
    obtain ⟨home, hstored, hof⟩ := h.homes huser
    have hplace : user.workspace = home.id := (h.workspaces hstored).symm
    have hfiled : (t.fileUser user').fileWorkspace home = t.fileUser user' := by
      rw [Tables.fileWorkspace, ← hplace]
      exact congrArg (fun workspaces => { t.fileUser user' with workspaces })
        (Table.insert_of_get? hstored)
    rw [← hfiled]
    refine h.fileUserAndHome (hhome.trans hplace)
      (hof.of_sameUsers ⟨rfl, rfl⟩ hid (hof.name.trans hname.symm)) ?_ ?_ (hmine huser hid hplace)
    · rw [hname, h.titled huser]
    · exact (Workspace.exists_restore_iff.1 (h.restorable hstored)).1
  | @newName me user user' home home' hactor huser hid hhome hshows hid' hmembers hname htitled =>
    obtain ⟨row, hrow, hfit, hrowId, hrowMembers, -⟩ := hshows.stored
    have hsame : home'.members = row.members := hmembers.trans hrowMembers
    have hplace : user.workspace = home'.id := by rw [hid', hrowId, h.workspaces hrow]
    obtain ⟨other, hother, hof⟩ := h.homes huser
    rw [hrow] at hother
    obtain rfl := Option.some.inj hother
    refine h.fileUserAndHome (hhome.trans hplace)
      (hof.of_sameUsers ⟨?_, ?_⟩ hid hname) htitled ?_ (hmine huser hid hplace)
    · rw [hsame]
    · rw [hsame]
    · rw [hid', hrowId]
      exact hfit.1

/-- A user who goes for good leaves the tables sound. -/
theorem of_withdrawal (h : t.Sound) {operator : Operator} (hwithdrawal : Withdrawal operator t t') :
    t'.Sound := by
  obtain ⟨-, -, hfates, hnothing, hclosed, husers, hroles, hpermittables⟩ := hwithdrawal
  rename_i me user closed
  have hbefore {id : WorkspaceId} {ws : Workspace} (hws : t'.workspaces.get? id = some ws) :
      ∃ row, t.workspaces.get? id = some row ∧ Fate me user.workspace row (some ws) := by
    cases hrow : t.workspaces.get? id with
    | none => exact nomatch (hnothing hrow).symm.trans hws
    | some row => exact ⟨row, rfl, hws ▸ hfates hrow⟩
  have hothers {k : UserId} (hk : t.users.contains k = true) (hne : k ≠ me) :
      t'.users.contains k = true := by
    rw [husers]
    exact (Table.contains_erase ..).2 ⟨hne.symm, hk⟩
  have hheld {k : PermittableId} {p : Permittable} (hp : t'.permittables.get? k = some p) :
      ∃ q, t.permittables.get? k = some q ∧ q.user ≠ me ∧ p = q.unbind closed := by
    rw [hpermittables h.toKeyed, Option.bind_eq_some_iff] at hp
    obtain ⟨q, hq, hp⟩ := hp
    split at hp
    · exact nomatch hp
    · exact ⟨q, hq, ‹_›, (Option.some.inj hp).symm⟩
  refine
    { workspaces := ?_, users := ?_, roles := fun hr => h.roles (hroles ▸ hr), permittables := ?_
      onePermittable := ?_, restorable := ?_, members := ?_, homes := ?_, holders := ?_
      heldRoles := ?_, bindings := ?_, titled := ?_ }
  · intro id ws hws
    obtain ⟨row, hrow, hfate⟩ := hbefore hws
    exact hfate.id.trans (h.workspaces hrow)
  · intro k u hu
    rw [husers] at hu
    exact h.users (Table.get?_erase_eq_some.1 hu).2
  · intro k p hp
    obtain ⟨q, hq, -, rfl⟩ := hheld hp
    exact (q.shrinks_unbind closed).id.trans (h.permittables hq)
  · intro k k' p p' hp hp' hsame
    obtain ⟨q, hq, -, rfl⟩ := hheld hp
    obtain ⟨q', hq', -, rfl⟩ := hheld hp'
    exact h.onePermittable hq hq' hsame
  · intro id ws hws
    obtain ⟨row, hrow, hfate⟩ := hbefore hws
    exact Workspace.exists_restore_iff.2
      (hfate.restorable (Workspace.exists_restore_iff.1 (h.restorable hrow)))
  · intro id ws member hws hmember
    obtain ⟨row, hrow, hfate⟩ := hbefore hws
    obtain ⟨hne, hthere⟩ := hfate.member hmember
    exact hothers (h.members hrow hthere) hne
  · intro k u hu
    rw [husers] at hu
    obtain ⟨hne, hu⟩ := Table.get?_erase_eq_some.1 hu
    obtain ⟨home, hhome, hof⟩ := h.homes hu
    have hnot : home.members.users.contains me = false := by
      obtain ⟨member, hrows, -⟩ := hof.sole
      rw [Table.contains_eq_false_iff, Table.get?_of_rows_eq_singleton hrows, if_neg]
      rw [h.users hu]
      exact hne.symm
    exact ⟨home, (hfates hhome).eq_of_spared hnot, hof⟩
  · intro k p hp
    obtain ⟨q, hq, hne, rfl⟩ := hheld hp
    have hthere := h.holders hq
    exact hothers hthere hne
  · intro k p role hp hrole
    obtain ⟨q, hq, -, rfl⟩ := hheld hp
    rw [hroles]
    exact h.heldRoles hq hrole
  · intro k p binding hp hbinding
    obtain ⟨q, hq, -, rfl⟩ := hheld hp
    obtain ⟨hlisted, hopen⟩ := List.mem_filter.1 hbinding
    obtain ⟨hworkspace, hrole⟩ := h.bindings hq hlisted
    refine ⟨?_, hroles ▸ hrole⟩
    by_contra hgone
    have hnone := Table.contains_eq_false_iff.1 (Bool.eq_false_iff.2 hgone)
    exact of_decide_eq_true hopen (hclosed hworkspace hnone)
  · intro k u hu
    rw [husers] at hu
    exact h.titled (Table.get?_erase_eq_some.1 hu).2

end Tables.Sound

/-! ## Runs -/

/-- Every operation that succeeds keeps the tables sound. -/
theorem Operation.Effect.sound {operator held : Operator} {operation : Operation} {t t' : Tables}
    (heffect : Effect operator t operation held t') (h : t.Sound) : t'.Sound := by
  cases heffect with
  | createWorkspace heffect => exact h.of_opening heffect
  | edit _ heffect => exact h.of_ownerEdit heffect
  | leave _ heffect => exact h.of_departure heffect
  | removeWorkspace heffect => exact h.of_closure heffect
  | signup heffect => exact h.of_arrival heffect
  | signupNewSubject heffect => exact h.of_arrival heffect
  | signupKnownSubject => exact h
  | updateMe heffect => exact h.of_selfChange heffect
  | removeMe heffect => exact h.of_withdrawal heffect
  | createRole heffect => exact h.of_roleFiling heffect
  | updateRole heffect => exact h.of_roleFiling heffect
  | removeRole heffect => exact h.of_roleRemoval heffect
  | updatePermittable heffect => exact h.of_grant heffect
  | addNewRole heffect => exact h.of_grant heffect
  | addKnownRole => exact h

/-- Every call keeps the tables sound, whether it succeeds or fails. -/
theorem Tables.Sound.of_call {store : Store} (h : store.tables.Sound) (call : Call) :
    (call.perform store).2.tables.Sound := by
  obtain ⟨error, hcall⟩ | ⟨held, store', hcall, heffect⟩ := call.perform_cases h.filed
  · rw [hcall]
    exact h
  · rw [hcall]
    exact heffect.sound h

/-- Tables without rows are sound. -/
theorem Store.sound_blank (label : Nat) (file : Option String) (attached : Bool) :
    (Store.blank label file attached).tables.Sound where
  workspaces := nofun
  users := nofun
  roles := nofun
  permittables := nofun
  onePermittable := nofun
  restorable := nofun
  members := nofun
  homes := nofun
  holders := nofun
  heldRoles := nofun
  bindings := nofun
  titled := nofun

/-- Sound tables stay sound along every run. -/
theorem Store.sound_after {store : Store} (h : store.tables.Sound) (calls : List Call) :
    (store.after calls).tables.Sound := by
  induction calls generalizing store with
  | nil => exact h
  | cons call calls ih => exact ih (h.of_call call)

/-- However an empty store is used, whoever calls and with whatever arguments, its tables are intact
all along. -/
theorem Store.intact_after (label : Nat) (file : Option String) (attached : Bool)
    (calls : List Call) : ((Store.blank label file attached).after calls).tables.Intact :=
  (Store.sound_after (Store.sound_blank label file attached) calls).toIntact

end Roster
