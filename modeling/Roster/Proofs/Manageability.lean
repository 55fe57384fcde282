import Roster.Proofs.Ownership
import Roster.Proofs.Reading

/-!
# Workspaces that somebody manages

A membership that is disabled grants nothing, so a workspace is managed as long as one of its owners
is not disabled in it. Who may leave or take over is decided by roles alone: an owner remains, but it
may be one who is disabled. Members can therefore leave a workspace to nobody in three ways: its last
active owners are taken out of it, go for good, or hand it over to somebody disabled. Nothing else
takes a workspace from those who manage it.
-/

namespace Roster

/-- A user is an owner among the members who is not disabled. -/
def Members.Active (members : Members) (user : UserId) : Prop :=
  ∃ member, members.users.get? user = some member ∧ member.role = .owner ∧ member.disabled = false

/-- Some user owns a stored workspace and is not disabled in it. -/
def Tables.Managed (t : Tables) (id : WorkspaceId) : Prop :=
  ∃ user, t.Owns user id

/-- Every stored workspace is managed. -/
def Tables.Manageable (t : Tables) : Prop :=
  ∀ ⦃id⦄, t.workspaces.contains id = true → t.Managed id

/-- The operations by which a user leaves a workspace to nobody: no other owner is active there, and
they hand it over to somebody disabled; or every active owner is taken out, or goes with the user. -/
def Operation.Strands (t : Tables) (user : UserId) (id : WorkspaceId) : Operation → Prop
  | transferOwnership workspace newOwner => workspace = id ∧
    (∃ member, t.Seats id newOwner member ∧ member.disabled = true) ∧
      ∀ owner, t.Owns owner id → owner = user
  | removeUserMember workspace member => workspace = id ∧ ∀ owner, t.Owns owner id → owner = member
  | removeMultipleUserMembers workspace members => workspace = id ∧
    ∀ owner, t.Owns owner id → owner ∈ members
  | removeMe => ∀ owner, t.Owns owner id → owner = user
  | _ => False

/-! ## Members -/

namespace Members

variable {members members' : Members} {user other : UserId} {role : Role}

/-- Whether a user is an active owner is a matter of their own membership. -/
theorem Active.congr (h : members.Active user)
    (hsame : members'.users.get? user = members.users.get? user) : members'.Active user := by
  rw [Active, hsame]
  exact h

/-- The owner of a new workspace is active. -/
theorem active_ofOwner (owner : UserId) (fixed : Bool) : (Members.ofOwner owner fixed).Active owner :=
  ⟨.new .owner owner, by rw [ofOwner, Table.get?_insert, if_pos rfl], rfl, rfl⟩

/-- The active owners who remain are those who do not leave. -/
theorem Left.active_iff {leaving : List UserId} (h : members.Left leaving members') :
    members'.Active user ↔ user ∉ leaving ∧ members.Active user := by
  simp only [Active, h.users]
  by_cases hleaves : user ∈ leaving <;> simp [hleaves]

/-- Another role of one user is no matter of the other owners. -/
theorem Reseated.active_iff_of_ne (h : members.Reseated user role members') (hne : other ≠ user) :
    members'.Active other ↔ members.Active other := by
  rw [Active, Active, h.get?_of_ne hne]

/-- Whoever gets another role is an active owner if the role is that of an owner and they are not
disabled. -/
theorem Reseated.active_self_iff (h : members.Reseated user role members') :
    members'.Active user ↔ role = .owner ∧
      ∃ member, members.users.get? user = some member ∧ member.disabled = false := by
  obtain ⟨member, hmember, hafter⟩ := h.get?_self
  simp [Active, hmember, hafter]

end Members

/-! ## Stored workspaces -/

namespace Tables

variable {t t' : Tables} {id : WorkspaceId} {user : UserId} {row : Workspace}

/-- Who is seated in a stored workspace can be read off its row. -/
theorem seats_iff (hrow : t.workspaces.get? id = some row) {member : Member} :
    t.Seats id user member ↔ row.members.users.get? user = some member := by
  simp [Seats, hrow]

/-- Who owns a stored workspace without being disabled can be read off its row. -/
theorem owns_iff (hrow : t.workspaces.get? id = some row) :
    t.Owns user id ↔ row.members.Active user := by
  simp only [Owns, Members.Active, seats_iff hrow]

/-- Who manages a stored workspace can be read off its row. -/
theorem managed_iff (hrow : t.workspaces.get? id = some row) :
    t.Managed id ↔ ∃ user, row.members.Active user := by
  simp only [Managed, owns_iff hrow]

/-- Whether a workspace is managed is a matter of its own row. -/
theorem Managed.congr (h : t.Managed id) (hsame : t'.workspaces.get? id = t.workspaces.get? id) :
    t'.Managed id := by
  simp only [Managed, Owns, Seats, hsame]
  exact h

/-- A workspace with an active owner may be filed. -/
theorem Manageable.fileWorkspace (h : t.Manageable) {ws : Workspace}
    (hws : ∃ user, ws.members.Active user) : (t.fileWorkspace ws).Manageable := by
  intro id hthere
  by_cases hid : ws.id = id
  · exact (managed_iff (get?_fileWorkspace.2 (.inl ⟨hid, rfl⟩))).2 hws
  · refine (h ((contains_fileWorkspace.1 hthere).resolve_left hid)).congr ?_
    rw [Tables.fileWorkspace, Table.get?_insert, if_neg hid]

end Tables

namespace Operation

variable {operator : Operator} {operation : Operation} {t : Tables} {user : UserId}
  {id other : WorkspaceId}
  {ws ws' row : Workspace}

/-- The only change of an owner that leaves a workspace to nobody is to hand it over. -/
theorem Strands.edited (h : operation.Strands t user id) (hedited : operation.edited? = some other) :
    ∃ newOwner, operation = .transferOwnership id newOwner := by
  cases operation with
  | transferOwnership workspace newOwner => exact ⟨newOwner, by rw [h.1]⟩
  | _ => first | exact h.elim | exact nomatch hedited

/-- Users who are taken out of a workspace leave it to nobody if no active owner stays. -/
theorem strands_of_leaving {leaving : List UserId} (h : operation.leaving? = some (other, leaving)) :
    operation.Strands t user id ↔ other = id ∧ ∀ owner, t.Owns owner id → owner ∈ leaving := by
  cases operation with
  | removeUserMember workspace member =>
    cases h
    simp only [Strands, List.mem_singleton]
  | removeMultipleUserMembers workspace members =>
    cases h
    exact .rfl
  | _ => exact nomatch h

/-- A workspace that is handed over has an active owner afterwards, unless nobody but the caller was
one and the new owner is disabled. -/
theorem exists_active_of_transfer {members between after : Members} {newOwner : UserId}
    (hpromoted : members.Reseated newOwner .owner between)
    (hdemoted : between.Reseated user .maintainer after) (hother : newOwner ≠ user) :
    (∃ owner, after.Active owner) ↔
      ¬ ((∃ member, members.users.get? newOwner = some member ∧ member.disabled = true) ∧
        ∀ owner, members.Active owner → owner = user) := by
  constructor
  · rintro ⟨owner, hafter⟩ ⟨⟨member, hmember, hdisabled⟩, honly⟩
    have hne : owner ≠ user := by
      rintro rfl
      exact nomatch (hdemoted.active_self_iff.1 hafter).1
    rw [hdemoted.active_iff_of_ne hne] at hafter
    by_cases hnew : owner = newOwner
    · subst hnew
      obtain ⟨-, seated, hseated, henabled⟩ := hpromoted.active_self_iff.1 hafter
      rw [hmember] at hseated
      obtain rfl := Option.some.inj hseated
      exact nomatch hdisabled.symm.trans henabled
    · exact hne (honly owner ((hpromoted.active_iff_of_ne hnew).1 hafter))
  · intro hkept
    obtain ⟨member, hmember, -⟩ := hpromoted.users
    cases hdisabled : member.disabled with
    | false =>
      refine ⟨newOwner, (hdemoted.active_iff_of_ne hother).2 (hpromoted.active_self_iff.2 ?_)⟩
      exact ⟨rfl, member, hmember, hdisabled⟩
    | true =>
      have hremains : ∃ owner, members.Active owner ∧ owner ≠ user := by
        by_contra hnone
        exact hkept ⟨⟨member, hmember, hdisabled⟩, fun owner howner => by_contra fun hne =>
          hnone ⟨owner, howner, hne⟩⟩
      obtain ⟨owner, howner, hne⟩ := hremains
      refine ⟨owner, (hdemoted.active_iff_of_ne hne).2 ((hpromoted.active_iff_of_ne ?_).2 howner)⟩
      -- An active owner is not disabled, so they are not the one who takes over.
      rintro rfl
      obtain ⟨seated, hseated, -, henabled⟩ := howner
      rw [hmember] at hseated
      obtain rfl := Option.some.inj hseated
      exact nomatch hdisabled.symm.trans henabled

/-- An active owner's change leaves an active owner, unless it hands the workspace to nobody. -/
theorem Revises.exists_active_iff (h : operation.Revises operator t user ws ws')
    (hedited : operation.edited? = some id) (hrow : t.workspaces.get? id = some row)
    (hmembers : ws.members = row.members) (hactive : row.members.Active user) :
    (∃ owner, ws'.members.Active owner) ↔ ¬ operation.Strands t user id := by
  have hkept {operation : Operation} (hedited : operation.edited? = some id)
      (hother : ∀ newOwner, operation ≠ .transferOwnership id newOwner) :
      ¬ operation.Strands t user id := fun hstrands =>
    have ⟨newOwner, heq⟩ := hstrands.edited hedited
    hother newOwner heq
  rw [← hmembers] at hactive
  cases operation with
  | updateWorkspace workspace change =>
    obtain ⟨-, hsame⟩ := h
    exact iff_of_true ⟨user, hactive.congr (by rw [hsame])⟩ (hkept hedited nofun)
  | addUserMember workspace users =>
    obtain ⟨member, hmember, hrole⟩ := hactive
    exact iff_of_true ⟨user, member, h.1.kept hmember, hrole⟩ (hkept hedited nofun)
  | updateUserMember workspace target role =>
    obtain ⟨hother, -, hreseated⟩ := h
    exact iff_of_true ⟨user, (hreseated.active_iff_of_ne hother.symm).2 hactive⟩
      (hkept hedited nofun)
  | transferOwnership workspace newOwner =>
    obtain ⟨hother, between, hpromoted, hdemoted⟩ := h
    obtain rfl : workspace = id := Option.some.inj hedited
    simp only [exists_active_of_transfer hpromoted hdemoted hother, Strands, true_and,
      Tables.seats_iff hrow, Tables.owns_iff hrow, hmembers]
  | _ =>
    obtain ⟨⟨husers, -⟩, -⟩ := h
    exact iff_of_true ⟨user, hactive.congr (by rw [husers])⟩ (hkept hedited nofun)

end Operation

namespace Fate

variable {me user : UserId} {home : WorkspaceId} {row ws : Workspace}

/-- The active owners of a workspace that remains are those who do not go. -/
theorem active_iff (h : Fate me home row (some ws)) :
    ws.members.Active user ↔ user ≠ me ∧ row.members.Active user := by
  cases h with
  | spared hothers =>
    refine ⟨fun hactive => ⟨?_, hactive⟩, And.right⟩
    rintro rfl
    obtain ⟨member, hmember, -⟩ := hactive
    exact nomatch hothers.symm.trans (Table.contains_iff.2 ⟨member, hmember⟩)
  | left _ _ _ hleft => rw [hleft.active_iff, List.mem_singleton]

end Fate

/-! ## Operations -/

namespace Operation.Effect

variable {operator held : Operator} {operation : Operation} {t t' : Tables} {user : UserId}
  {id : WorkspaceId}

/-- An operation that succeeds for someone who owns every workspace they count among their own keeps
a workspace managed that remains, unless it leaves it to nobody. -/
theorem managed_iff (heffect : Effect operator t operation held t') (hfiled : t.Filed)
    (hactor : operator.user = some user) (hbacked : ∀ id ∈ operator.owning, t.Owns user id)
    (hmanaged : t.Manageable) (hremains : t'.workspaces.contains id = true) :
    t'.Managed id ↔ ¬ operation.Strands t user id := by
  -- What leaves the row of the workspace as it was leaves it managed.
  have hsame (hrow : t'.workspaces.get? id = t.workspaces.get? id) : t'.Managed id := by
    refine (hmanaged ?_).congr hrow
    rwa [Table.contains, hrow] at hremains
  -- A workspace that is filed is looked at by itself.
  have hfiling {base : Tables} {ws : Workspace} (ht' : t'.workspaces = (base.fileWorkspace ws).workspaces)
      (hbase : base.workspaces = t.workspaces) :
      t'.Managed id ↔ ws.id ≠ id ∨ ∃ owner, ws.members.Active owner := by
    by_cases hid : ws.id = id
    · have hrow : t'.workspaces.get? id = some ws := by
        rw [ht']
        exact Tables.get?_fileWorkspace.2 (.inl ⟨hid, rfl⟩)
      rw [Tables.managed_iff hrow, or_iff_right (not_not_intro hid)]
    · refine iff_of_true (hsame ?_) (.inl hid)
      rw [ht', Tables.fileWorkspace, Table.get?_insert, if_neg hid, hbase]
  cases heffect with
  | createWorkspace heffect =>
    obtain ⟨-, -, -, -, hmembers, -⟩ := heffect
    exact iff_of_true ((hfiling rfl rfl).2 (.inr (hmembers ▸ ⟨_, Members.active_ofOwner _ _⟩)))
      not_false
  | @edit _ other _ hedited heffect =>
    obtain ⟨hcaller, howning, hshows, hid, hchange, -⟩ := heffect
    obtain rfl := Option.some.inj (hactor.symm.trans hcaller)
    rw [hfiling rfl rfl, hid, hfiled.id_of_shows hshows]
    by_cases hother : other = id
    · subst hother
      obtain ⟨row, hrow, -, -, hmembers, -⟩ := hshows.stored
      have hactive := (Tables.owns_iff hrow).1 (hbacked _ howning)
      rw [or_iff_right (not_not_intro rfl)]
      exact hchange.exists_active_iff hedited hrow hmembers hactive
    · refine iff_of_true (.inl hother) fun hstrands => ?_
      obtain ⟨newOwner, rfl⟩ := hstrands.edited hedited
      exact hother (Option.some.inj hedited).symm
  | @leave _ other leaving _ hleaving heffect =>
    obtain ⟨-, hshows, hid, hleft, -, hrewrites, -⟩ := heffect
    obtain ⟨row, hrow, -, -, hmembers, -⟩ := hshows.stored
    rw [hfiling rfl hrewrites.workspaces, hid, hfiled.id_of_shows hshows,
      strands_of_leaving hleaving]
    by_cases hother : other = id
    · subst hother
      simp only [hleft.active_iff, hmembers, Tables.owns_iff hrow]
      grind
    · simp only [hother, ne_eq, not_false_eq_true, true_or, false_and]
  | removeWorkspace heffect =>
    obtain ⟨-, -, -, -, hrewrites⟩ := heffect
    refine iff_of_true (hsame ?_) not_false
    rw [hrewrites.workspaces] at hremains ⊢
    exact (Table.get?_erase ..).trans (if_neg ((Table.contains_erase ..).1 hremains).1)
  | signup heffect | signupNewSubject heffect =>
    obtain ⟨-, -, -, -, -, hmembers, -⟩ := heffect
    exact iff_of_true ((hfiling rfl rfl).2 (.inr (hmembers ▸ ⟨_, Members.active_ofOwner _ _⟩)))
      not_false
  | updateMe heffect =>
    cases heffect with
    | sameName => exact iff_of_true (hsame rfl) not_false
    | newName _ _ _ _ hshows hid hmembers =>
      obtain ⟨row, hrow, -, -, hbefore, -⟩ := hshows.stored
      refine iff_of_true ((hfiling rfl rfl).2 (.inr ?_)) not_false
      rw [hmembers, hbefore, ← Tables.managed_iff hrow]
      exact hmanaged (Table.contains_iff.2 ⟨row, hrow⟩)
  | removeMe heffect =>
    obtain ⟨hcaller, huser, hfates, hnothing, -, -, -, -⟩ := heffect
    obtain rfl := Option.some.inj (hactor.symm.trans hcaller)
    obtain ⟨ws, hws⟩ := Table.contains_iff.1 hremains
    cases hrow : t.workspaces.get? id with
    | none => exact absurd (hws.symm.trans (hnothing hrow)) (Option.some_ne_none ws)
    | some row =>
      have hfate : Fate user _ row (some ws) := hws ▸ hfates hrow
      simp only [Tables.managed_iff hws, hfate.active_iff, Strands, Tables.owns_iff hrow]
      grind
  | removeRole heffect =>
    obtain ⟨hrewrites⟩ := heffect
    exact iff_of_true (hsame (by rw [hrewrites.workspaces])) not_false
  | createRole heffect | updateRole heffect | updatePermittable heffect | addNewRole heffect =>
    obtain ⟨_⟩ := heffect
    exact iff_of_true (hsame rfl) not_false
  | signupKnownSubject | addKnownRole => exact iff_of_true (hsame rfl) not_false

end Operation.Effect

/-! ## Requests -/

namespace Request

variable (request : Request) {store : Store}

/-- A request fails and leaves the store as it was, or its operation does to the tables what it is
meant to, for an operator who owns every workspace they count among their own. -/
theorem perform_cases (hfiled : store.tables.Filed) :
    (∃ error, request.perform store = (.error error, store)) ∨
      ∃ operator held store', request.perform store = (.ok held, store') ∧
        operator.user = some request.user ∧
        (∀ id ∈ operator.owning, store.tables.Owns request.user id) ∧
        Operation.Effect operator store.tables request.operation held store'.tables := by
  match hlookup : (Accounts.operatorFor request.defaultPolicy request.user).perform request.moment
      { store } with
  | (.error error, directory) =>
    have hstore : directory.store = store := by
      have hlooks := (Accounts.looks_operatorFor request.defaultPolicy request.user).store
        request.moment { store }
      rwa [hlookup] at hlooks
    refine .inl ⟨error, ?_⟩
    rw [perform, hlookup, ← hstore]
  | (.ok operator, directory) =>
    obtain ⟨rfl, hactor, hbacked⟩ := Accounts.backed_of_operatorFor hfiled hlookup
    simp only [perform, hlookup]
    obtain ⟨error, hcall⟩ | ⟨held, store', hcall, heffect⟩ := Call.perform_cases
      { moment := request.moment
        defaultPolicy := request.defaultPolicy
        operator
        operation := request.operation } hfiled
    · exact .inl ⟨error, hcall⟩
    · exact .inr ⟨operator, held, store', hcall, hactor, hbacked, heffect⟩

/-- Where every workspace is managed, a request of a user whose operator is looked up just before
keeps a workspace managed that remains, exactly unless it succeeds in leaving it to nobody. -/
theorem managed_after_iff (hfiled : store.tables.Filed) (hmanaged : store.tables.Manageable)
    {id : WorkspaceId} (hremains : (request.perform store).2.tables.workspaces.contains id = true) :
    (request.perform store).2.tables.Managed id ↔
      ¬ ((∃ held, (request.perform store).1 = .ok held) ∧
        request.operation.Strands store.tables request.user id) := by
  obtain ⟨error, hfails⟩ | ⟨operator, held, store', hsucceeds, hactor, hbacked, heffect⟩ :=
    request.perform_cases hfiled
  · rw [hfails] at hremains ⊢
    exact iff_of_true (hmanaged hremains) fun h => nomatch h.1
  · rw [hsucceeds] at hremains ⊢
    simp only [Except.ok.injEq, exists_eq', true_and]
    exact heffect.managed_iff hfiled hactor hbacked hmanaged hremains

/-! ### A team with a disabled member -/

namespace SuspendedTeam

/-- A user with a personal workspace. -/
def account (name : String) : User where
  id := ⟨name⟩
  name := name
  email := name ++ "@example.com"
  identities := []
  workspace := ⟨name ++ "-home"⟩
  profile := {}
  updatedAt := .epoch

/-- A workspace with some members. -/
def workspace (id name : String) (members : Members) : Workspace where
  id := ⟨id⟩
  name := name
  aliasName := ""
  email := ""
  profile := {}
  members := members
  policy := none
  updatedAt := .epoch

/-- The personal workspace of a user. -/
def home (name : String) : Workspace :=
  workspace (name ++ "-home") name (.ofOwner ⟨name⟩ true)

/-- Olga owns the team, and dave is a maintainer who is disabled. -/
def team : Workspace :=
  workspace "team" "Team"
    { users := (Table.empty.insert ⟨"olga"⟩ (.new .owner ⟨"olga"⟩)).insert ⟨"dave"⟩
        { Member.new .maintainer ⟨"olga"⟩ with disabled := true }
      integrations := ∅
      fixed := false }

/-- The tables with a user who signs up with a personal workspace. -/
def arrive (t : Tables) (name : String) : Tables :=
  (t.fileUser (account name)).fileWorkspace (home name)

/-- Two users and their team. -/
def directory : Store where
  label := 0
  tables := (arrive (arrive {} "olga") "dave").fileWorkspace team
  file := none
  attached := false

/-- Nothing is wrong with the team. -/
theorem sound_directory : directory.tables.Sound := by
  have hhome (name : String) : (home name).HomeOf (account name) :=
    ⟨rfl, ⟨.new .owner ⟨name⟩, rfl, rfl⟩, rfl⟩
  have holga : (arrive {} "olga").Sound :=
    (Store.sound_blank 0 none false).fileUserAndHome rfl (hhome _) (by decide) (by decide) nofun
  have hdave : (arrive (arrive {} "olga") "dave").Sound := by
    refine holga.fileUserAndHome rfl (hhome _) (by decide) (by decide) fun {k other} hother hsame => ?_
    obtain ⟨-, rfl⟩ | ⟨-, hother⟩ := Table.get?_insert_eq_some.1 hother
    · exact absurd hsame (by decide)
    · exact nomatch hother
  refine hdave.fileWorkspace ⟨by decide, nofun⟩ (fun {user} hmember => ?_) fun {k user} huser hsame => ?_
  · obtain rfl | hmember := (Table.contains_insert ..).1 hmember
    · decide
    · obtain rfl | hmember := (Table.contains_insert ..).1 hmember
      · decide
      · exact nomatch hmember
  · obtain ⟨-, rfl⟩ | ⟨-, huser⟩ := Table.get?_insert_eq_some.1 huser
    · exact absurd hsame (by decide)
    · obtain ⟨-, rfl⟩ | ⟨-, huser⟩ := Table.get?_insert_eq_some.1 huser
      · exact absurd hsame (by decide)
      · exact nomatch huser

/-- The owner manages the team, and both users their homes. -/
theorem manageable_directory : directory.tables.Manageable := by
  have hhome (name : String) : ∃ user, (home name).members.Active user :=
    ⟨_, Members.active_ofOwner _ _⟩
  have hempty : Tables.Manageable {} := fun _ h => nomatch h
  have holga : (arrive {} "olga").Manageable := Tables.Manageable.fileWorkspace hempty (hhome _)
  have hdave : (arrive (arrive {} "olga") "dave").Manageable :=
    Tables.Manageable.fileWorkspace holga (hhome _)
  exact hdave.fileWorkspace ⟨⟨"olga"⟩, .new .owner ⟨"olga"⟩, by decide, rfl, rfl⟩

/-- Olga hands the team over to dave. -/
def handover : Request where
  moment := .epoch
  defaultPolicy := none
  user := ⟨"olga"⟩
  operation := .transferOwnership ⟨"team"⟩ ⟨"dave"⟩

/-- Afterwards olga is a maintainer, and dave an owner who is still disabled. -/
theorem not_managed_after_handover :
    ¬ (handover.perform directory).2.tables.Managed ⟨"team"⟩ := by
  rintro ⟨user, member, ⟨ws, hws, hmember⟩, hrole, henabled⟩
  have hrows : ws.members.users.rows = [(⟨"dave"⟩, { Member.new .owner ⟨"olga"⟩ with disabled := true }),
      (⟨"olga"⟩, .new .maintainer ⟨"olga"⟩)] := by
    have hafter : ((handover.perform directory).2.tables.workspaces.get? ⟨"team"⟩).map
        (·.members.users.rows) = some _ := rfl
    rw [hws] at hafter
    exact Option.some.inj hafter
  rw [Table.get?_eq_some_iff, hrows] at hmember
  simp only [List.mem_cons, List.not_mem_nil, Prod.mk.injEq, or_false] at hmember
  obtain ⟨-, rfl⟩ | ⟨-, rfl⟩ := hmember
  · exact nomatch henabled
  · exact nomatch hrole

/-- A request may leave a workspace to nobody. -/
theorem unmanaged_after_handover :
    ¬ ∀ (store : Store) (request : Request), store.tables.Sound → store.tables.Manageable →
      ∀ id, (request.perform store).2.tables.workspaces.contains id = true →
        (request.perform store).2.tables.Managed id :=
  fun h => not_managed_after_handover
    (h directory handover sound_directory manageable_directory ⟨"team"⟩ (by decide +kernel))

/-- The team is left to nobody by the handover. -/
theorem strands_handover : handover.operation.Strands directory.tables handover.user ⟨"team"⟩ := by
  have hmanaged := handover.managed_after_iff sound_directory.filed manageable_directory
    (by decide +kernel : (handover.perform directory).2.tables.workspaces.contains ⟨"team"⟩ = true)
  by_contra hkept
  exact not_managed_after_handover (hmanaged.2 fun h => hkept h.2)

end SuspendedTeam

end Request

end Roster
