import Roster.Proofs.Actions
import Roster.Proofs.Memberships
import Roster.Proofs.Sweeps

/-!
# What operations on workspaces come to

An operation on a workspace that succeeds files one changed workspace, or takes one away. What the
change can be is known for each operation: who may have asked for it, and which users are members
before and after.
-/

namespace Roster

/-- The tables with one workspace filed under its own id. -/
def Tables.fileWorkspace (t : Tables) (ws : Workspace) : Tables :=
  { t with workspaces := t.workspaces.insert ws.id ws }

namespace Tables

variable {t : Tables} {ws : Workspace} {id : WorkspaceId}

/-- A workspace that is there after one is filed is that one or was there before. -/
theorem get?_fileWorkspace {other : Workspace} :
    (t.fileWorkspace ws).workspaces.get? id = some other ↔
      (ws.id = id ∧ ws = other) ∨ (ws.id ≠ id ∧ t.workspaces.get? id = some other) :=
  Table.get?_insert_eq_some

/-- Filing a workspace leaves every workspace there. -/
theorem contains_fileWorkspace :
    (t.fileWorkspace ws).workspaces.contains id = true ↔
      ws.id = id ∨ t.workspaces.contains id = true :=
  Table.contains_insert ..

/-- Rows stay under their own ids when a workspace is filed under its own. -/
theorem Filed.fileWorkspace (h : t.Filed) (ws : Workspace) : (t.fileWorkspace ws).Filed :=
  h.withWorkspaces fun hws => by
    obtain ⟨hid, rfl⟩ | ⟨-, hws⟩ := get?_fileWorkspace.1 hws
    · exact hid
    · exact h.workspaces hws

/-- A workspace that is given out is the stored one, but for blank ends of its name. -/
theorem Shows.stored (h : t.Shows id ws) :
    ∃ row, t.workspaces.get? id = some row ∧ row.Restorable ∧ ws.id = row.id ∧
      ws.members = row.members ∧ ws.name = Workspace.titled row.name := by
  obtain ⟨row, hrow, hrestore⟩ := h
  obtain ⟨hfit, hws⟩ := Workspace.restore_eq_ok.1 hrestore
  exact ⟨row, hrow, hfit, by rw [hws], by rw [hws], by rw [hws]⟩

/-- A workspace that is given out is the row under its id, but for blank ends of its name. -/
theorem Shows.eq_of_get? {row : Workspace} (h : t.Shows id ws)
    (hrow : t.workspaces.get? id = some row) :
    row.Restorable ∧ ws = { row with name := Workspace.titled row.name } := by
  obtain ⟨stored, hstored, hrestore⟩ := h
  obtain rfl := Option.some.inj (hrow.symm.trans hstored)
  exact Workspace.restore_eq_ok.1 hrestore

/-- A workspace that is given out has the alias of the stored one. -/
theorem Shows.aliasName (h : t.Shows id ws) :
    ∃ row, t.workspaces.get? id = some row ∧ ws.aliasName = row.aliasName := by
  obtain ⟨row, hrow, hrestore⟩ := h
  obtain ⟨-, hws⟩ := Workspace.restore_eq_ok.1 hrestore
  exact ⟨row, hrow, by rw [hws]⟩

/-- What is given out is a matter of the stored workspaces only. -/
theorem Shows.congr {t' : Tables} (h : t.Shows id ws) (hworkspaces : t'.workspaces = t.workspaces) :
    t'.Shows id ws := by
  rw [Shows, hworkspaces]
  exact h

end Tables

namespace Members

/-- One of the users gets another role, and keeps the rest of the membership. -/
structure Reseated (user : UserId) (role : Role) (members members' : Members) : Prop where
  open_before : members.fixed = false
  open_after : members'.fixed = false
  users : ∃ member, members.users.get? user = some member ∧
    members'.users = members.users.insert user { member with role }

/-- Some of the given users join, and nobody who was there is touched. -/
structure Joined (joining : List UserId) (members members' : Members) : Prop where
  open_before : members.fixed = false
  open_after : members'.fixed = false
  kept : ∀ {user member}, members.users.get? user = some member →
    members'.users.get? user = some member
  users : ∀ {user}, members'.users.contains user = true →
    members.users.contains user = true ∨ user ∈ joining

/-- The given users leave, and nobody else is touched. -/
structure Left (leaving : List UserId) (members members' : Members) : Prop where
  open_before : members.fixed = false
  open_after : members'.fixed = false
  users : ∀ user, members'.users.get? user =
    if user ∈ leaving then none else members.users.get? user
  integrations : members'.integrations = members.integrations

/-- Whoever is there after some have left was there before. -/
theorem Left.contains {members members' : Members} {leaving : List UserId}
    (h : members.Left leaving members') {user : UserId}
    (huser : members'.users.contains user = true) : members.users.contains user = true := by
  obtain ⟨member, hmember⟩ := Table.contains_iff.1 huser
  rw [h.users] at hmember
  split at hmember
  · exact nomatch hmember
  · exact Table.contains_iff.2 ⟨member, hmember⟩

/-- Users who leave after others have left together with them. -/
theorem Left.trans {first second : List UserId} {members members₁ members₂ : Members}
    (h₁ : members.Left first members₁) (h₂ : members₁.Left second members₂) :
    members.Left (first ++ second) members₂ where
  open_before := h₁.open_before
  open_after := h₂.open_after
  users := fun user => by
    rw [h₂.users, h₁.users]
    by_cases hsecond : user ∈ second <;> simp [hsecond]
  integrations := h₂.integrations.trans h₁.integrations

end Members

/-- An alias may be taken: it is none at all, or the first workspace that has it, if there is one, is
the excepted one. -/
def Tables.AliasFree (t : Tables) (aliasName : String) (except : Option WorkspaceId) : Prop :=
  aliasName = "" ∨ ∀ ws, t.workspaces.values.find? (·.aliasName = aliasName) = some ws →
    some ws.id = except

/-- A workspace with other members is otherwise as it was, except that it comes under the default
policy of the operator if it had none. -/
structure Workspace.Settled (operator : Operator) (ws ws' : Workspace) : Prop where
  name : ws'.name = ws.name
  aliasName : ws'.aliasName = ws.aliasName
  email : ws'.email = ws.email
  profile : ws'.profile = ws.profile
  policy : ws'.policy = ws.policy.or operator.defaultPolicy

/-- A workspace with what a change gives it in place of what it had; it bears the time if it was given
anything. -/
def WorkspaceChange.made (change : WorkspaceChange) (operator : Operator) (now : Time.Instant)
    (ws : Workspace) : Workspace :=
  { ws with
    name := change.name.getD ws.name
    aliasName := change.aliasName.getD ws.aliasName
    email := change.email.getD ws.email
    profile := change.profile.getD ws.profile
    policy := (change.policy.map fun policy => operator.policy (some policy)).getD ws.policy
    updatedAt := if change = {} then ws.updatedAt else now }

/-- A change that gives nothing leaves a workspace as it is. -/
theorem WorkspaceChange.made_empty (operator : Operator) (now : Time.Instant) (ws : Workspace) :
    made {} operator now ws = ws := by
  simp [made]

/-- A change that gives nothing. -/
theorem WorkspaceChange.eq_empty_iff {change : WorkspaceChange} :
    change = {} ↔ change.name = none ∧ change.aliasName = none ∧ change.email = none ∧
      change.profile = none ∧ change.policy = none := by
  cases change
  simp

/-- An owner's change of one workspace: the operator lists the workspace among those they own, and
it is filed again as the change makes it, under its alias or one that may be taken. -/
inductive OwnerEdit (operator : Operator) (id : WorkspaceId)
    (Change : UserId → Workspace → Workspace → Prop) (t : Tables) : Tables → Prop
  | intro {user : UserId} {ws ws' : Workspace} (hactor : operator.user = some user)
    (howning : id ∈ operator.owning) (hshows : t.Shows id ws) (hid : ws'.id = ws.id)
    (hchange : Change user ws ws')
    (halias : ws'.aliasName = ws.aliasName ∨ t.AliasFree ws'.aliasName (some id)) :
    OwnerEdit operator id Change t (t.fileWorkspace ws')

/-- Some users leave a workspace that the operator may read, by their own wish or an owner's: an owner
remains, and what they held within the workspace is taken from them. -/
inductive Departure (operator : Operator) (id : WorkspaceId) (leaving : List UserId) (t : Tables) :
    Tables → Prop
  | intro {user : UserId} {ws ws' : Workspace} {t' : Tables} (hactor : operator.user = some user)
    (hshows : t.Shows id ws) (hid : ws'.id = ws.id)
    (hleft : ws.members.Left leaving ws'.members)
    (howner : ∃ owner, owner ∈ ws'.members.usersByRole .owner)
    (hrewrites : t.Rewrites (fun p => if p.user ∈ leaving then p.unbind [id] else p) t')
    (halias : ws'.aliasName = ws.aliasName) (hreadable : id ∈ operator.allReadable)
    (hwish : (∀ member ∈ leaving, member = user) ∨ ws.members.userRole? user = some .owner) :
    Departure operator id leaving t (t'.fileWorkspace ws')

/-- An owner removes a team workspace, and with it every binding to it. -/
inductive Closure (operator : Operator) (id : WorkspaceId) (t : Tables) : Tables → Prop
  | intro {user : UserId} {ws : Workspace} {t' : Tables} (hactor : operator.user = some user)
    (howning : id ∈ operator.owning) (hshows : t.Shows id ws) (hteam : ws.isPersonal = false)
    (hrewrites :
      Tables.Rewrites (·.unbind [id]) { t with workspaces := t.workspaces.erase id } t') :
    Closure operator id t t'

/-- A new team workspace of one owner, under an id that was free and an alias that may be taken. -/
inductive Opening (operator : Operator) (firstUser : UserId) (t : Tables) :
    WorkspaceId → Tables → Prop
  | intro {user : UserId} {ws : Workspace} (hactor : operator.user = some user)
    (hfirst : t.users.contains firstUser = true) (hfree : t.workspaces.get? ws.id = none)
    (hid : ws.id.text.isEmpty = false) (hmembers : ws.members = .ofOwner firstUser false)
    (halias : t.AliasFree ws.aliasName none) :
    Opening operator firstUser t ws.id (t.fileWorkspace ws)

namespace Workspaces

open Program

variable {ids : Nat → String} {s s' : Draft × Nat} {operator : Operator} {now : Time.Instant}
  {moment : Moment} {directory directory' : Directory}

/-! ## Steps -/

/-- Applying the default policy gives it to a workspace that has none, at the time at hand, and leaves
everything else alone. -/
theorem withDefaultPolicy_eq (ws : Workspace) :
    withDefaultPolicy operator now ws =
      { ws with
        policy := ws.policy.or operator.defaultPolicy
        updatedAt := if ws.policy.or operator.defaultPolicy = ws.policy then ws.updatedAt else now } := by
  obtain ⟨_, _, _, _, _, _, policy, _⟩ := ws
  unfold withDefaultPolicy Operator.policy
  cases policy <;> cases operator.defaultPolicy <;> simp [Workspace.setPolicy]

/-- A change of members settles with the default policy. -/
theorem settled_withDefaultPolicy (operator : Operator) (now : Time.Instant) (ws : Workspace)
    (members : Members) :
    ws.Settled operator (withDefaultPolicy operator now { ws with members, updatedAt := now }) := by
  rw [withDefaultPolicy_eq]
  exact ⟨rfl, rfl, rfl, rfl, rfl⟩

/-- A workspace passes as one that is not personal exactly when it is not. -/
@[simp]
theorem ends_notPersonal {ws : Workspace} {u : Unit} :
    (notPersonal ws).Ends ids s u s' ↔ ws.isPersonal = false ∧ s' = s := by
  unfold notPersonal
  cases ws.isPersonal <;> simp

/-- A workspace that is not fit to be restored does not pass as missing. -/
theorem optional_restore {row : Workspace} {found : Option Workspace}
    (h : Roster.optional row.restore = .ok found) : ∃ ws, found = some ws ∧ ws.id = row.id := by
  unfold Workspace.restore at h
  cases hid : row.id.text.isEmpty <;>
    cases hfit : row.isPersonal && !Workspace.soleOwner row.members <;>
      simp only [hid, hfit] at h
  · exact ⟨_, (Except.ok.inj h).symm, rfl⟩
  all_goals exact nomatch h

/-- Making sure of an alias changes nothing, and an alias that passes may be taken. -/
theorem ends_aliasFree {aliasName : String} {except : Option WorkspaceId} {u : Unit}
    (h : (aliasFree aliasName except).Ends ids s u s') :
    s' = s ∧ s.1.tables.AliasFree aliasName except := by
  unfold aliasFree at h
  simp only [ends_ite, ends_pure, ends_refuseTaken] at h
  obtain ⟨hnone, -, rfl⟩ | ⟨hsome, ⟨found, hfound, hfree⟩, rfl⟩ := h
  · exact ⟨rfl, .inl (String.isEmpty_iff.1 hnone)⟩
  have hanswer : (Query.workspaceAliased .none aliasName).answer s'.1.tables =
      Roster.found ("workspace alias " ++ aliasName)
        (s'.1.tables.workspaces.values.find? (·.aliasName = aliasName)) >>= Workspace.restore := by
    simp [Query.answer, Query.refusal?, Query.search, hsome]
  rw [hanswer] at hfound
  cases hrow : s'.1.tables.workspaces.values.find? (·.aliasName = aliasName) with
  | none =>
    exact ⟨rfl, .inr fun ws hws => absurd (hws.symm.trans hrow) (Option.some_ne_none ws)⟩
  | some row =>
    rw [hrow] at hfound
    obtain ⟨ws, rfl, hid⟩ := optional_restore hfound
    refine ⟨rfl, .inr fun row' hrow' => ?_⟩
    obtain rfl := Option.some.inj (hrow.symm.trans hrow')
    rw [← hid]
    exact Decidable.not_not.1 (of_decide_eq_false (hfree ws rfl))

/-- A change settles when the workspace allows it, and then only its policy and its time may still
change. -/
@[simp]
theorem ends_settled {outcome : Except Error Workspace} {ws' : Workspace} :
    (settled operator now outcome).Ends ids s ws' s' ↔
      ∃ ws, outcome = .ok ws ∧ ws' = withDefaultPolicy operator now ws ∧ s' = s := by
  simp only [settled, ends_bind, ends_ofExcept, ends_pure]
  constructor
  · rintro ⟨ws, _, ⟨rfl, rfl⟩, rfl, rfl⟩
    exact ⟨ws, rfl, rfl, rfl⟩
  · rintro ⟨ws, rfl, rfl, rfl⟩
    exact ⟨ws, _, ⟨rfl, rfl⟩, rfl, rfl⟩

/-- An operator meets the demand to own a workspace exactly when it is on the list of those they
own. -/
theorem check_ownership {id : WorkspaceId} :
    (ownership id).requirements.check (some operator) = .ok () ↔ id ∈ operator.owning := by
  simp [Requirements.check, ownership, Role.all, Requirements.metFor, Requirements.forRole,
    Operator.reachesAny, Operator.reach, Operator.allOwning]

/-- An operator meets the demand to read a workspace exactly when it is within their reach. -/
theorem check_readable {id : WorkspaceId} :
    Requirements.check { readable := some [id] } (some operator) = .ok () ↔
      id ∈ operator.allReadable := by
  have hreader : Requirements.check { readable := some [id] } (some operator) = .ok () ↔
      operator.reachesAny .reader [id] = true := by
    simp [Requirements.check, Role.all, Requirements.metFor, Requirements.forRole]
  rw [hreader, Operator.reachesAny, List.any_cons, List.any_nil, Bool.or_false, decide_eq_true_eq]
  rfl

/-- What a change of one workspace in a transaction comes to when it succeeds. -/
theorem edit_inversion {usecase : Usecase} (htransactional : usecase.transactional = true)
    {id : WorkspaceId} {before : UserId → Except Error Unit}
    {change : UserId → Time.Instant → Workspace → Program Workspace} {ws' : Workspace}
    (h : (edit usecase id operator before change).perform moment directory =
      (.ok ws', directory')) :
    ∃ user ws s, operator.user = some user ∧
      usecase.requirements.check (some operator) = .ok () ∧ before user = .ok () ∧
      directory.store.tables.Shows id ws ∧
      (change user moment.now ws).Ends moment.ids (Usecase.opening directory) ws' s ∧
      directory'.store.tables = s.1.tables.fileWorkspace ws' := by
  simp only [edit, Action.perform_bind_eq_ok, Action.perform_ofExcept, Action.perform_now,
    Usecase.perform_run_eq_ok htransactional, Prod.mk.injEq, Operator.actor_eq_ok] at h
  obtain ⟨user, _, ⟨hactor, rfl⟩, _, _, ⟨hnow, rfl⟩, hcheck, draft, drawn, store, hends, hcommit,
    rfl⟩ := h
  cases hnow
  simp only [ends_bind, ends_ofExcept, ends_query, ends_command, ends_pure] at hends
  obtain ⟨_, _, ⟨hbefore, rfl⟩, ws, _, ⟨hshows, rfl⟩, _, s, hchange, _, s₂, ⟨saved, happly, rfl⟩,
    rfl, hdraft⟩ := hends
  cases hdraft
  refine ⟨user, ws, s, hactor, hcheck, hbefore, Query.answer_workspace.1 hshows, hchange, ?_⟩
  rw [Store.tables_of_commit hcommit, Command.apply_saveWorkspaces.1 happly]
  rfl

/-- A change by an owner that succeeds, told by what the change itself can come to. -/
theorem ownerEdit_of_perform {id : WorkspaceId} {before : UserId → Except Error Unit}
    {change : UserId → Time.Instant → Workspace → Program Workspace} {ws' : Workspace}
    {Change : UserId → Workspace → Workspace → Prop}
    (hchange : ∀ user ws ws' s, before user = .ok () →
      (change user moment.now ws).Ends moment.ids (Usecase.opening directory) ws' s →
        s = Usecase.opening directory ∧ ws'.id = ws.id ∧ Change user ws ws' ∧
          (ws'.aliasName = ws.aliasName ∨
            directory.store.tables.AliasFree ws'.aliasName (some id)))
    (h : (edit (ownership id) id operator before change).perform moment directory =
      (.ok ws', directory')) :
    OwnerEdit operator id Change directory.store.tables directory'.store.tables := by
  obtain ⟨user, ws, s, hactor, hcheck, hbefore, hshows, hends, htables⟩ := edit_inversion rfl h
  obtain ⟨rfl, hid, hchange, halias⟩ := hchange user ws ws' s hbefore hends
  rw [htables]
  exact .intro hactor (check_ownership.1 hcheck) hshows hid hchange halias

/-! ## Changes by owners -/

/-- What a change of the workspace itself comes to when it succeeds: a workspace that is not
personal is filed again, with what the change gives it in place of what it had. -/
theorem update_inversion {id : WorkspaceId} {change : WorkspaceChange} {ws' : Workspace}
    (h : (update id change operator).perform moment directory = (.ok ws', directory')) :
    ∃ user ws, operator.user = some user ∧ id ∈ operator.owning ∧
      directory.store.tables.Shows id ws ∧ ws.isPersonal = false ∧
      ws' = change.made operator moment.now ws ∧
      (∀ aliasName, change.aliasName = some aliasName →
        directory.store.tables.AliasFree aliasName (some id)) ∧
      directory'.store.tables = directory.store.tables.fileWorkspace ws' := by
  obtain ⟨user, ws, s, hactor, hcheck, -, hshows, hends, htables⟩ := edit_inversion rfl h
  rw [ends_bind] at hends
  obtain ⟨_, _, hpassed, hends⟩ := hends
  obtain ⟨hteam, rfl⟩ := ends_notPersonal.1 hpassed
  extract_lets ws₀ done policy profile email aliasName at hends
  -- From the last step to the first: each gives the workspace it takes one field of its own, if the
  -- change has it, and leaves to the later steps what the change has for them.
  have hpolicy {w ws' s'}
      (h : (policy () w).Ends moment.ids (Usecase.opening directory) ws' s') :
      s' = Usecase.opening directory ∧
        ws' = WorkspaceChange.made { policy := change.policy } operator moment.now w := by
    cases hchange : change.policy <;> simp only [policy, done, hchange] at h <;>
      obtain ⟨rfl, rfl⟩ := ends_pure.1 h <;>
      exact ⟨rfl, by simp [WorkspaceChange.made, Workspace.setPolicy]⟩
  have hprofile {w ws' s'}
      (h : (profile () w).Ends moment.ids (Usecase.opening directory) ws' s') :
      s' = Usecase.opening directory ∧
        ws' = WorkspaceChange.made { change with name := none, aliasName := none, email := none }
          operator moment.now w := by
    cases hchange : change.profile <;> simp only [profile, hchange] at h <;>
      obtain ⟨rfl, rfl⟩ := hpolicy h <;>
      exact ⟨rfl, by simp [WorkspaceChange.made, Workspace.updateProfile]⟩
  have hemail {w ws' s'}
      (h : (email () w).Ends moment.ids (Usecase.opening directory) ws' s') :
      s' = Usecase.opening directory ∧
        ws' = WorkspaceChange.made { change with name := none, aliasName := none }
          operator moment.now w := by
    cases hchange : change.email <;> simp only [email, hchange] at h <;>
      obtain ⟨rfl, rfl⟩ := hprofile h <;>
      exact ⟨rfl, by simp [WorkspaceChange.made, Workspace.updateEmail]⟩
  have haliasName {w ws' s'}
      (h : (aliasName () w).Ends moment.ids (Usecase.opening directory) ws' s') :
      (s' = Usecase.opening directory ∧
        ws' = WorkspaceChange.made { change with name := none } operator moment.now w) ∧
      ∀ aliasName, change.aliasName = some aliasName →
        directory.store.tables.AliasFree aliasName (some id) := by
    cases hchange : change.aliasName with
    | none =>
      simp only [aliasName, hchange] at h
      obtain ⟨rfl, rfl⟩ := hemail h
      exact ⟨⟨rfl, by simp [WorkspaceChange.made]⟩, nofun⟩
    | some given =>
      simp only [aliasName, hchange, ends_bind] at h
      obtain ⟨_, _, hpassed, h⟩ := h
      obtain ⟨rfl, hfree⟩ := ends_aliasFree hpassed
      obtain ⟨rfl, rfl⟩ := hemail h
      refine ⟨⟨rfl, by simp [WorkspaceChange.made, Workspace.updateAlias]⟩, ?_⟩
      intro aliasName haliasName
      rwa [← Option.some.inj haliasName]
  have hname : (s = Usecase.opening directory ∧ ws' = change.made operator moment.now ws) ∧
      ∀ aliasName, change.aliasName = some aliasName →
        directory.store.tables.AliasFree aliasName (some id) := by
    cases hchange : change.name <;> simp only [hchange] at hends <;>
      obtain ⟨⟨rfl, rfl⟩, hfree⟩ := haliasName hends <;>
      exact ⟨⟨rfl, by
        simp [WorkspaceChange.made, WorkspaceChange.eq_empty_iff, Workspace.rename, hchange, ws₀]⟩,
        hfree⟩
  obtain ⟨⟨rfl, hws'⟩, hfree⟩ := hname
  exact ⟨user, ws, hactor, check_ownership.1 hcheck, hshows, hteam, hws', hfree, htables⟩

/-- A change of the workspace itself spares personal workspaces and all members. -/
theorem update_effect {id : WorkspaceId} {change : WorkspaceChange} {ws' : Workspace}
    (h : (update id change operator).perform moment directory = (.ok ws', directory')) :
    OwnerEdit operator id (fun _ ws ws' => ws.isPersonal = false ∧ ws'.members = ws.members)
      directory.store.tables directory'.store.tables := by
  obtain ⟨user, ws, hactor, howning, hshows, hteam, hws', hfree, htables⟩ := update_inversion h
  rw [htables, hws']
  refine .intro hactor howning hshows rfl ⟨hteam, rfl⟩ ?_
  cases haliasName : change.aliasName with
  | none => exact .inl (by rw [WorkspaceChange.made, haliasName, Option.getD_none])
  | some aliasName =>
    rw [WorkspaceChange.made, haliasName]
    exact .inr (hfree aliasName haliasName)

/-- Users of whom none is missing all exist. -/
theorem contains_of_firstMissing {t : Tables} (hfiled : t.Filed) {ids : List UserId}
    (h : firstMissing ids (ids.filterMap t.users.get?) = none) {id : UserId} (hid : id ∈ ids) :
    t.users.contains id = true := by
  have hany := List.find?_eq_none.1 h id hid
  simp only [Bool.not_eq_true', Bool.not_eq_false, List.any_eq_true, List.mem_filterMap,
    decide_eq_true_eq] at hany
  obtain ⟨user, ⟨key, -, hkey⟩, rfl⟩ := hany
  rw [hfiled.users hkey]
  exact Table.contains_iff.2 ⟨user, hkey⟩

/-- Users who join one after the other have all joined. -/
theorem joined_of_foldlM {ws ws' : Workspace} (hteam : ws.isPersonal = false)
    {users : List (UserId × Role)} {inviter : UserId}
    (h : users.foldlM (fun ws x => Workspace.join now ws x.1 (some x.2) inviter) ws = .ok ws') :
    ws'.id = ws.id ∧ ws'.aliasName = ws.aliasName ∧
      ws.members.Joined (users.map Prod.fst) ws'.members := by
  refine foldlM_induction
    (P := fun w => w.id = ws.id ∧ w.aliasName = ws.aliasName ∧
      ws.members.Joined (users.map Prod.fst) w.members) h
    ⟨rfl, rfl, hteam, hteam, id, .inl⟩ fun w x w' hx hjoin hw => ?_
  obtain ⟨members, hmembers, rfl⟩ := Workspace.changeMembers_eq_ok.1 hjoin
  obtain ⟨-, hnew, rfl⟩ := Members.join_eq_ok.1 hmembers
  obtain ⟨hid, halias, hjoined⟩ := hw
  refine ⟨hid, halias, { hjoined with kept := ?_, users := ?_ }⟩
  · intro user member huser
    have hkept := hjoined.kept huser
    rw [Table.get?_insert, if_neg, hkept]
    rintro rfl
    rw [hnew] at hkept
    exact nomatch hkept
  · intro user huser
    obtain rfl | huser := (Table.contains_insert ..).1 huser
    · exact .inr (List.mem_map_of_mem hx)
    · exact hjoined.users huser

/-- Users who join all exist. -/
theorem addUserMember_effect (hfiled : directory.store.tables.Filed) {id : WorkspaceId}
    {users : List (UserId × Role)} {ws' : Workspace}
    (h : (addUserMember id users operator).perform moment directory = (.ok ws', directory')) :
    OwnerEdit operator id
      (fun _ ws ws' => ws.members.Joined (users.map Prod.fst) ws'.members ∧
        ∀ user ∈ users.map Prod.fst, directory.store.tables.users.contains user = true)
      directory.store.tables directory'.store.tables := by
  unfold addUserMember at h
  simp only [Action.perform_bind_eq_ok, Action.perform_ofExcept, Prod.mk.injEq] at h
  obtain ⟨_, _, ⟨_, rfl⟩, h⟩ := h
  split at h
  · simp at h
  · refine ownerEdit_of_perform (fun user ws ws' s _ hends => ?_) h
    simp only [ends_bind, ends_notPersonal, ends_query] at hends
    obtain ⟨_, _, ⟨hteam, rfl⟩, _, _, ⟨hanswer, rfl⟩, hends⟩ := hends
    obtain rfl := ok_eq_ok_comm.1 hanswer
    split at hends
    · simp at hends
    · rename_i hmissing
      obtain ⟨w, hjoin, rfl, rfl⟩ := ends_settled.1 hends
      obtain ⟨hid, halias, hjoined⟩ := joined_of_foldlM hteam hjoin
      rw [withDefaultPolicy_eq]
      refine ⟨rfl, hid, ⟨hjoined, fun user huser => ?_⟩, .inl halias⟩
      exact contains_of_firstMissing hfiled (Option.eq_none_iff_forall_ne_some.2 hmissing)
        (mem_distinct.2 huser)

/-- A change of the integrations spares the users. -/
theorem integrations_effect {id : WorkspaceId} {ws' : Workspace}
    {change : UserId → Members → Except Error Members}
    (hchange : ∀ {user members members'}, change user members = .ok members' →
      members.SameUsers members')
    (h : (edit (ownership id) id operator unchecked fun user now ws =>
      settled operator now (ws.changeMembers now (change user))).perform moment directory =
        (.ok ws', directory')) :
    OwnerEdit operator id
      (fun _ ws ws' => ws.members.SameUsers ws'.members ∧ ws.Settled operator ws')
      directory.store.tables directory'.store.tables := by
  refine ownerEdit_of_perform (fun user ws ws' s _ hends => ?_) h
  obtain ⟨w, hw, rfl, rfl⟩ := ends_settled.1 hends
  obtain ⟨members, hmembers, rfl⟩ := Workspace.changeMembers_eq_ok.1 hw
  have hsettled := settled_withDefaultPolicy operator moment.now ws members
  rw [withDefaultPolicy_eq] at hsettled ⊢
  exact ⟨rfl, rfl, ⟨hchange hmembers, hsettled⟩, .inl rfl⟩

/-- A change of a role by itself. -/
theorem reseated_of_updateUserRole {ws ws' : Workspace} {user : UserId} {role : Role}
    (h : ws.updateUserRole now user role = .ok ws') :
    ws'.id = ws.id ∧ ws'.aliasName = ws.aliasName ∧
      ws.members.Reseated user role ws'.members := by
  obtain ⟨members, hmembers, rfl⟩ := Workspace.changeMembers_eq_ok.1 h
  obtain ⟨hopen, member, huser, rfl⟩ := Members.updateUserRole_eq_ok.1 hmembers
  exact ⟨rfl, rfl, hopen, hopen, member, huser, rfl⟩

/-- Someone else than the caller gets a role below owner. -/
theorem updateUserMember_effect {id : WorkspaceId} {member : UserId} {role : Role}
    {ws' : Workspace}
    (h : (updateUserMember id member role operator).perform moment directory =
      (.ok ws', directory')) :
    OwnerEdit operator id
      (fun user ws ws' => member ≠ user ∧ role ≠ .owner ∧
        ws.members.Reseated member role ws'.members)
      directory.store.tables directory'.store.tables := by
  refine ownerEdit_of_perform (fun user ws ws' s hbefore hends => ?_) h
  have hguard : member ≠ user ∧ role ≠ .owner := by
    by_cases hself : member = user <;> by_cases howner : role = .owner <;>
      simp [hself, howner] at hbefore ⊢
  obtain ⟨w, hw, rfl, rfl⟩ := ends_settled.1 hends
  obtain ⟨hid, halias, hreseated⟩ := reseated_of_updateUserRole hw
  rw [withDefaultPolicy_eq]
  exact ⟨rfl, hid, ⟨hguard.1, hguard.2, hreseated⟩, .inl halias⟩

/-- Someone else than the caller becomes an owner, and the caller a maintainer. -/
theorem transferOwnership_effect {id : WorkspaceId} {newOwner : UserId} {ws' : Workspace}
    (h : (transferOwnership id newOwner operator).perform moment directory =
      (.ok ws', directory')) :
    OwnerEdit operator id
      (fun user ws ws' => newOwner ≠ user ∧ ∃ between,
        ws.members.Reseated newOwner .owner between ∧
          between.Reseated user .maintainer ws'.members)
      directory.store.tables directory'.store.tables := by
  refine ownerEdit_of_perform (fun user ws ws' s hbefore hends => ?_) h
  have hother : newOwner ≠ user := by
    by_cases hself : newOwner = user <;> simp [hself] at hbefore ⊢
  extract_lets settle at hends
  have hsettle : (settle ()).Ends moment.ids (Usecase.opening directory) ws' s := by
    split at hends
    · simp at hends
    · simp at hends
    · exact hends
  obtain ⟨w, hw, rfl, rfl⟩ := ends_settled.1 hsettle
  obtain ⟨w₁, hfirst, hsecond⟩ := bind_eq_ok.1 hw
  obtain ⟨hid₁, halias₁, hpromoted⟩ := reseated_of_updateUserRole hfirst
  obtain ⟨hid₂, halias₂, hdemoted⟩ := reseated_of_updateUserRole hsecond
  rw [withDefaultPolicy_eq]
  exact ⟨rfl, hid₂.trans hid₁, ⟨hother, w₁.members, hpromoted, hdemoted⟩,
    .inl (halias₂.trans halias₁)⟩

/-! ## Leaving -/

/-- A user who leaves is gone, and the others stay. -/
theorem left_of_leave {ws ws' : Workspace} {user : UserId} (h : ws.leave now user = .ok ws') :
    ws'.id = ws.id ∧ ws'.aliasName = ws.aliasName ∧ ws.members.Left [user] ws'.members := by
  obtain ⟨members, hmembers, rfl⟩ := Workspace.changeMembers_eq_ok.1 h
  obtain ⟨hopen, -, rfl⟩ := Members.leave_eq_ok.1 hmembers
  refine ⟨rfl, rfl, hopen, hopen, fun other => ?_, rfl⟩
  simp only [Table.get?_erase, List.mem_singleton, eq_comm]

/-- To take a user out is to let them leave. -/
theorem leave_of_takeOut {ws ws' : Workspace} {user member : UserId}
    (h : takeOut user now ws member = .ok ws') : ws.leave now member = .ok ws' := by
  unfold takeOut at h
  extract_lets leave at h
  split at h
  · split at h
    · simp at h
    · exact h
  · split at h
    · simp at h
    · exact h

/-- Whoever is taken out is among the users, and the others stay. -/
theorem left_of_takeOut {ws ws' : Workspace} {user member : UserId}
    (h : takeOut user now ws member = .ok ws') :
    ws'.id = ws.id ∧ ws'.aliasName = ws.aliasName ∧ ws.members.Left [member] ws'.members :=
  left_of_leave (leave_of_takeOut h)

/-- Users take themselves out, or else they are owners. -/
theorem owner_of_takeOut {ws ws' : Workspace} {user member : UserId}
    (h : takeOut user now ws member = .ok ws') (hother : member ≠ user) :
    ws.members.userRole? user = some .owner := by
  unfold takeOut at h
  extract_lets leave at h
  rw [if_neg hother] at h
  split at h
  · simp at h
  · exact Decidable.not_not.1 ‹_›

/-- Users take nobody but themselves out, or else they were owners at first. -/
theorem owner_of_foldlM {ws ws' : Workspace} {user : UserId} {targets : List UserId}
    (h : targets.foldlM (takeOut user now) ws = .ok ws') :
    (∀ member ∈ targets, member = user) ∨ ws.members.userRole? user = some .owner := by
  induction targets generalizing ws with
  | nil => exact .inl fun member hmember => absurd hmember List.not_mem_nil
  | cons member rest ih =>
    rw [List.foldlM_cons, bind_eq_ok] at h
    obtain ⟨w, hw, hrest⟩ := h
    by_cases hself : member = user
    · obtain hothers | howner := ih hrest
      · exact .inl (List.forall_mem_cons.2 ⟨hself, hothers⟩)
      · -- Whoever has taken themselves out has no role any more.
        obtain ⟨-, -, hleft⟩ := left_of_takeOut hw
        rw [Members.userRole?, hleft.users, if_pos (List.mem_singleton.2 hself.symm)] at howner
        exact nomatch howner
    · exact .inr (owner_of_takeOut hw hself)

/-- Members who are taken out one after the other have all left. -/
theorem left_of_foldlM {ws ws' : Workspace} {user : UserId} {targets : List UserId}
    (hopen : ws.members.fixed = false) (h : targets.foldlM (takeOut user now) ws = .ok ws') :
    ws'.id = ws.id ∧ ws'.aliasName = ws.aliasName ∧ ws.members.Left targets ws'.members := by
  induction targets generalizing ws with
  | nil =>
    obtain rfl := pure_eq_ok.1 h
    exact ⟨rfl, rfl, hopen, hopen, fun user => (if_neg List.not_mem_nil).symm, rfl⟩
  | cons member rest ih =>
    rw [List.foldlM_cons, bind_eq_ok] at h
    obtain ⟨w, hw, hrest⟩ := h
    obtain ⟨hid, halias, hfirst⟩ := left_of_takeOut hw
    obtain ⟨hid', halias', hothers⟩ := ih hfirst.open_after hrest
    exact ⟨hid'.trans hid, halias'.trans halias, hfirst.trans hothers⟩

/-- Members are taken out of a workspace whose users are not fixed. -/
theorem left_of_takeOuts {ws ws' : Workspace} {user : UserId} {targets : List UserId}
    (htargets : targets ≠ []) (h : targets.foldlM (takeOut user now) ws = .ok ws') :
    ws'.id = ws.id ∧ ws'.aliasName = ws.aliasName ∧ ws.members.Left targets ws'.members := by
  match targets, htargets with
  | member :: rest, _ =>
    have hfirst := h
    rw [List.foldlM_cons, bind_eq_ok] at hfirst
    obtain ⟨w, hw, -⟩ := hfirst
    exact left_of_foldlM (left_of_takeOut hw).2.2.open_before h

/-- Members leave together. -/
theorem removeMultipleUserMembers_effect (hfiled : directory.store.tables.Filed) {id : WorkspaceId}
    {members : List UserId} {ws' : Workspace}
    (h : (removeMultipleUserMembers id members operator).perform moment directory =
      (.ok ws', directory')) :
    Departure operator id members directory.store.tables directory'.store.tables := by
  unfold removeMultipleUserMembers at h
  rw [Action.perform_bind_eq_ok] at h
  obtain ⟨_, d₁, hfirst, h⟩ := h
  rw [Action.perform_ofExcept, Prod.mk.injEq] at hfirst
  obtain ⟨-, rfl⟩ := hfirst
  extract_lets targets go at h
  split at h
  · simp at h
  rename_i hsome
  obtain ⟨user, ws, s, hactor, hcheck, -, hshows, hends, htables⟩ := edit_inversion rfl h
  rw [ends_bind] at hends
  obtain ⟨w, s₁, hfold, hends⟩ := hends
  obtain ⟨hfold, rfl⟩ := ends_ofExcept.1 hfold
  split at hends
  · simp at hends
  rename_i howner
  simp only [ends_bind, ends_query, ends_pure] at hends
  obtain ⟨permittables, _, ⟨hanswer, rfl⟩, _, _, hloop, rfl, rfl⟩ := hends
  obtain rfl := ok_eq_ok_comm.1 hanswer
  have hrewrites : directory.store.tables.Rewrites
      (fun p => if p.user ∈ members then p.unbind [id] else p) s.1.tables := by
    refine (rewrites_of_forIn _ hfiled (fun p => ?_) (fun p => decide (p.user ∈ targets)) ?_ rfl ?_
      hloop).2
    · split <;> rfl
    · intro p hp
      exact if_neg fun hmem => of_decide_eq_false hp (mem_distinct.2 hmem)
    · intro p hp _
      have hmem : p.user ∈ members := mem_distinct.1 (of_decide_eq_true hp)
      refine sweeps_save ?_ ?_
      · rw [if_pos hmem, Permittable.removeWorkspace_fst]
      · intro hkept
        rw [if_pos hmem, ← Permittable.removeWorkspace_fst]
        exact Permittable.removeWorkspace_fst_eq_self hkept
  have hleft : w.id = ws.id ∧ w.aliasName = ws.aliasName ∧ ws.members.Left members w.members := by
    obtain ⟨hid, halias, hleft⟩ :=
      left_of_takeOuts (fun hnil => hsome (List.isEmpty_iff.2 hnil)) ‹_›
    refine ⟨hid, halias, { hleft with users := fun user => ?_ }⟩
    rw [hleft.users]
    simp only [targets, mem_distinct]
  have hwish : (∀ member ∈ members, member = user) ∨ ws.members.userRole? user = some .owner := by
    refine (owner_of_foldlM ‹_›).imp_left fun hself member hmember => ?_
    exact hself member (mem_distinct.2 hmember)
  have hremains : ∃ owner, owner ∈ w.members.usersByRole .owner :=
    List.exists_mem_of_ne_nil _ fun hnil => howner (List.isEmpty_iff.2 hnil)
  rw [htables, withDefaultPolicy_eq]
  exact .intro hactor hshows hleft.1 hleft.2.2 hremains hrewrites hleft.2.1 (check_readable.1 hcheck)
    hwish

/-! ## Coming and going -/

/-- A workspace that is not personal goes together with every binding to it. -/
theorem remove_effect (hfiled : directory.store.tables.Filed) {id : WorkspaceId}
    (h : (remove id operator).perform moment directory = (.ok (), directory')) :
    Closure operator id directory.store.tables directory'.store.tables := by
  simp only [remove, Action.perform_bind_eq_ok, Action.perform_ofExcept, Prod.mk.injEq,
    Operator.actor_eq_ok, Usecase.perform_run_eq_ok (rfl : (ownership id).transactional = true),
    check_ownership] at h
  obtain ⟨user, _, ⟨hactor, rfl⟩, howning, draft, drawn, store, hends, hcommit, rfl⟩ := h
  simp only [ends_bind, ends_query, ends_notPersonal, ends_command,
    Command.apply_removeWorkspace] at hends
  obtain ⟨ws, _, ⟨hshows, rfl⟩, _, _, ⟨hteam, rfl⟩, _, _, ⟨_, ⟨-, rfl⟩, rfl⟩, hstrip⟩ := hends
  have hdropped : ((Usecase.opening directory).1.dropWorkspace id).tables.Filed :=
    hfiled.eraseWorkspace id
  rw [Store.tables_of_commit hcommit]
  exact .intro hactor howning (Query.answer_workspace.1 hshows) hteam
    (ends_stripBindings hdropped hstrip).2

/-- What creating a workspace comes to when it succeeds: a team workspace is built for a first user
who exists, under an id that was free, and filed. -/
theorem create_inversion {name aliasName : String} {firstUser : UserId} {ws : Workspace}
    {held : Operator}
    (h : (create name aliasName firstUser operator).perform moment directory =
      (.ok (ws, held), directory')) :
    ∃ user id, operator.user = some user ∧ held = operator.addNewWorkspace ws.id ∧
      directory.store.tables.users.contains firstUser = true ∧
      directory.store.tables.AliasFree aliasName none ∧
      directory.store.tables.workspaces.get? ws.id = none ∧
      Workspace.Plan.build
        { id := some id, name, aliasName, owner := some firstUser, policy := operator.policy none }
        moment.now = .ok ws ∧
      directory'.store.tables = directory.store.tables.fileWorkspace ws := by
  simp only [create, Action.perform_bind_eq_ok, Action.perform_ofExcept, Action.perform_now,
    Action.perform_pure, Prod.mk.injEq, Operator.actor_eq_ok, ok_eq_ok_comm,
    Usecase.perform_run_eq_ok (rfl : ({ transactional := true } : Usecase).transactional = true)]
    at h
  obtain ⟨user, _, ⟨hactor, rfl⟩, now, _, ⟨rfl, rfl⟩, ws, _, ⟨-, draft, drawn, store, hends,
    hcommit, rfl⟩, ⟨rfl, rfl⟩, rfl⟩ := h
  simp only [establish, ends_bind, ends_query, ends_drawId, ends_ofExcept, ends_command, ends_pure,
    Command.apply_createWorkspace, Query.answer_user] at hends
  obtain ⟨_, _, ⟨hfirst, rfl⟩, _, _, hpassed, id, _, ⟨-, rfl⟩, _, _, ⟨hbuild, rfl⟩, _, _,
    ⟨_, ⟨hfree, rfl⟩, rfl⟩, rfl, hdraft⟩ := hends
  obtain ⟨rfl, halias⟩ := ends_aliasFree hpassed
  cases hdraft
  exact ⟨user, id, hactor, rfl, Table.contains_iff.2 ⟨_, hfirst⟩, halias, hfree, hbuild,
    Store.tables_of_commit hcommit⟩

/-- A workspace is created for a first user who exists, and the operator counts it as their own. -/
theorem create_effect {name aliasName : String} {firstUser : UserId} {ws : Workspace}
    {held : Operator}
    (h : (create name aliasName firstUser operator).perform moment directory =
      (.ok (ws, held), directory')) :
    held = operator.addNewWorkspace ws.id ∧
      Opening operator firstUser directory.store.tables ws.id directory'.store.tables := by
  obtain ⟨user, id, hactor, hheld, hfirst, halias, hfree, hbuild, htables⟩ := create_inversion h
  obtain ⟨rfl, hempty, hmembers, -, rfl⟩ := Workspace.of_build rfl rfl rfl hbuild
  rw [htables]
  exact ⟨hheld, .intro hactor hfirst hfree hempty hmembers halias⟩

end Workspaces

end Roster
