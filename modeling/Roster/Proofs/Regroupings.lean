import Roster.Proofs.Atomicity
import Roster.Proofs.Settlements
import Roster.Proofs.SingleRemovals

/-!
# Workspaces that get other members

An owner's call that gives a workspace other members succeeds exactly when the members allow the
change, and what it leaves behind is then known: apart from the members, the workspace has only come
under the default policy. So a series of such calls amounts to a single one, whose change is made of
the changes of all, and two ways to the same members differ in the time of the last change at most.
-/

namespace Roster

open Time (Instant)

variable {operator : Operator} {now now' : Instant} {row : Workspace} {members members' : Members}
  {t : Tables} {id : WorkspaceId} {directory directory' : Directory} {moment moment' : Moment}
  {ws : Workspace}

/-! ## What is left behind -/

/-- A workspace once its owner has given it other members. -/
def Workspace.withMembers (operator : Operator) (now : Instant) (members : Members)
    (row : Workspace) : Workspace :=
  { row with
    name := titled row.name
    members
    policy := row.policy.or operator.defaultPolicy
    updatedAt := now }

/-- The workspace is the same one. -/
@[simp]
theorem Workspace.withMembers_id (operator : Operator) (now : Instant) (members : Members)
    (row : Workspace) : (row.withMembers operator now members).id = row.id := by
  simp only [withMembers]

/-- Of two changes of the members the later one stays. -/
theorem Workspace.withMembers_withMembers (operator : Operator) (now now' : Instant)
    (members members' : Members) (row : Workspace) :
    (row.withMembers operator now members).withMembers operator now' members' =
      row.withMembers operator now' members' := by
  have hpolicy : (row.policy.or operator.defaultPolicy).or operator.defaultPolicy =
      row.policy.or operator.defaultPolicy := by
    rw [Option.or_assoc, Option.or_self]
  simp only [withMembers, titled_titled, hpolicy]

/-- The time of the change is only the time of the last change. -/
theorem Workspace.withMembers_stamp (operator : Operator) (now now' : Instant) (members : Members)
    (row : Workspace) :
    row.withMembers operator now' members =
      { row.withMembers operator now members with updatedAt := now' } := by
  simp only [withMembers]

/-- A workspace can still be given out if fixed users have been left alone. -/
theorem Workspace.Restorable.withMembers (h : row.Restorable) (hsteady : row.members.Steady members)
    (operator : Operator) (now : Instant) :
    (row.withMembers operator now members).Restorable := by
  obtain hsame | ⟨-, hopen⟩ := hsteady
  · exact h.of_sameUsers (row.withMembers_id ..) hsame
  · exact ⟨h.1, fun hpersonal => nomatch hopen.symm.trans hpersonal⟩

/-- The workspace is given out as it is filed. -/
theorem Tables.get?_fileWorkspace_withMembers (operator : Operator) (now : Instant)
    (members : Members) (row : Workspace) (t : Tables) :
    (t.fileWorkspace (row.withMembers operator now members)).workspaces.get? row.id =
      some (row.withMembers operator now members) :=
  (Table.get?_insert ..).trans (if_pos (row.withMembers_id ..))

/-- The other workspaces are given out as before. -/
theorem Tables.get?_fileWorkspace_withMembers_of_ne {other : WorkspaceId} (hother : other ≠ row.id)
    (operator : Operator) (now : Instant) (members : Members) (t : Tables) :
    (t.fileWorkspace (row.withMembers operator now members)).workspaces.get? other =
      t.workspaces.get? other := by
  refine (Table.get?_insert ..).trans (if_neg ?_)
  rw [Workspace.withMembers_id]
  exact hother.symm

/-- Tables do not differ from themselves. -/
theorem Tables.AlikeButStamp.refl (h : t.workspaces.get? id = some ws) : t.AlikeButStamp id t where
  workspace := ⟨ws, ws.updatedAt, h, h⟩
  workspaces _ _ := rfl
  users := rfl
  roles := rfl
  permittables := rfl

/-- The time of the change is seen nowhere else. -/
theorem Tables.alikeButStamp_withMembers (operator : Operator) (now now' : Instant)
    (members : Members) (row : Workspace) (t : Tables) :
    AlikeButStamp row.id (t.fileWorkspace (row.withMembers operator now members))
      (t.fileWorkspace (row.withMembers operator now' members)) where
  workspace := ⟨row.withMembers operator now members, now', get?_fileWorkspace_withMembers .., by
    rw [get?_fileWorkspace_withMembers, Workspace.withMembers_stamp operator now now']⟩
  workspaces other hother := by
    rw [get?_fileWorkspace_withMembers_of_ne hother, get?_fileWorkspace_withMembers_of_ne hother]
  users := rfl
  roles := rfl
  permittables := rfl

/-- A workspace has members as wanted, has lost the blank ends of its name and, if it had no policy,
has come under the default policy of the operator. Nothing else has changed in the tables. -/
structure Tables.Restaffed (operator : Operator) (now : Instant) (row : Workspace)
    (Wanted : Members → Prop) (t t' : Tables) : Prop where
  workspace : ∃ members, Wanted members ∧ t'.workspaces.get? row.id = some
    { row with
      name := Workspace.titled row.name
      members
      policy := row.policy.or operator.defaultPolicy
      updatedAt := now }
  workspaces : ∀ other, other ≠ row.id → t'.workspaces.get? other = t.workspaces.get? other
  users : t'.users = t.users
  roles : t'.roles = t.roles
  permittables : t'.permittables = t.permittables

/-- This is what is left behind when a workspace is given members as wanted. -/
theorem Tables.restaffed_fileWorkspace {Wanted : Members → Prop} (hwanted : Wanted members)
    (operator : Operator) (now : Instant) (row : Workspace) (t : Tables) :
    t.Restaffed operator now row Wanted
      (t.fileWorkspace (row.withMembers operator now members)) where
  workspace := ⟨members, hwanted, get?_fileWorkspace_withMembers ..⟩
  workspaces _ hother := get?_fileWorkspace_withMembers_of_ne hother ..
  users := rfl
  roles := rfl
  permittables := rfl

/-- The directory once the owner of a workspace has given it other members and this has been
committed. -/
def Directory.withMembers (operator : Operator) (now : Instant) (members : Members)
    (row : Workspace) (directory : Directory) : Directory :=
  { directory with
    store := directory.store.holding
      (directory.store.tables.fileWorkspace (row.withMembers operator now members)) }

/-- Of two changes of the members only the later one is filed. -/
theorem Tables.fileWorkspace_withMembers (operator : Operator) (now now' : Instant)
    (members members' : Members) (row : Workspace) (t : Tables) :
    (t.fileWorkspace (row.withMembers operator now members)).fileWorkspace
        (row.withMembers operator now' members') =
      t.fileWorkspace (row.withMembers operator now' members') := by
  simp only [fileWorkspace, Workspace.withMembers_id, Table.insert_insert]

/-- Of two changes of the members only the later one is left behind. -/
theorem Directory.withMembers_withMembers (operator : Operator) (now now' : Instant)
    (members members' : Members) (row : Workspace) (directory : Directory) :
    (directory.withMembers operator now members row).withMembers operator now' members'
        (row.withMembers operator now members) =
      directory.withMembers operator now' members' row := by
  have htables : (directory.store.holding (directory.store.tables.fileWorkspace
      (row.withMembers operator now members))).tables =
        directory.store.tables.fileWorkspace (row.withMembers operator now members) := rfl
  simp only [withMembers, Store.holding_holding, htables, Workspace.withMembers_withMembers,
    Tables.fileWorkspace_withMembers]

/-- The members of a workspace change step by step as they allow, and with them only the time. -/
theorem Workspace.foldlM_changeMembers_eq_ok {α : Type}
    {change : α → Members → Except Error Members} {items : List α} (hsome : items ≠ [])
    {ws ws' : Workspace} :
    items.foldlM (fun ws a => ws.changeMembers now (change a)) ws = .ok ws' ↔
      ∃ members, items.foldlM (fun members a => change a members) ws.members = .ok members ∧
        ws' = { ws with members, updatedAt := now } := by
  induction items generalizing ws with
  | nil => exact absurd rfl hsome
  | cons a rest ih =>
    simp only [List.foldlM_cons, bind_eq_ok, changeMembers_eq_ok]
    obtain rfl | hrest := eq_or_ne rest []
    · simp only [List.foldlM_nil, pure_eq_ok]
      constructor
      · rintro ⟨_, ⟨members, hmembers, rfl⟩, rfl⟩
        exact ⟨members, ⟨members, hmembers, rfl⟩, rfl⟩
      · rintro ⟨members, ⟨_, hmembers, rfl⟩, rfl⟩
        exact ⟨_, ⟨members, hmembers, rfl⟩, rfl⟩
    · simp only [ih hrest]
      constructor
      · rintro ⟨_, ⟨members, hmembers, rfl⟩, last, hlast, rfl⟩
        exact ⟨last, ⟨members, hmembers, hlast⟩, rfl⟩
      · rintro ⟨last, ⟨members, hmembers, hlast⟩, rfl⟩
        exact ⟨_, ⟨members, hmembers, rfl⟩, last, hlast, rfl⟩

/-! ## Actions in turn -/

/-- Take actions one after the other, each at its moment, up to the first that fails. -/
def Action.inTurn {α β : Type} (action : α → Action β) :
    List (Moment × α) → Directory → Except Error Directory
  | [], directory => .ok directory
  | (moment, a) :: rest, directory =>
    match (action a).perform moment directory with
    | (.ok _, directory) => inTurn action rest directory
    | (.error error, _) => .error error

/-- Actions are taken in turn when the first succeeds and then the others do. -/
theorem Action.inTurn_cons_eq_ok {α β : Type} {action : α → Action β} {a : α}
    {rest : List (Moment × α)} :
    inTurn action ((moment, a) :: rest) directory = .ok directory' ↔
      ∃ b next, (action a).perform moment directory = (.ok b, next) ∧
        inTurn action rest next = .ok directory' := by
  rw [inTurn]
  obtain ⟨_ | b, next⟩ := (action a).perform moment directory <;> simp [and_assoc]

namespace Program

variable {α β : Type} {ids : Nat → String} {s s' : Draft × Nat} {program : Program α}

/-- A program whose first part ends well goes on with the second. -/
theorem onDraft_bind_of_ends {a : α} (h : program.Ends ids s a s') (f : α → Program β) :
    (program >>= f).onDraft ids s.1 s.2 = (f a).onDraft ids s'.1 s'.2 := by
  refine (onDraft_andThen program _ s.1 s.2).trans ?_
  rw [show program.onDraft ids s.1 s.2 = (.ok a, s') from h]

/-- A program whose first part fails fails with it. -/
theorem onDraft_bind_of_error {error : Error}
    (h : program.onDraft ids s.1 s.2 = (.error error, s')) (f : α → Program β) :
    (program >>= f).onDraft ids s.1 s.2 = (.error error, s') := by
  refine (onDraft_andThen program _ s.1 s.2).trans ?_
  rw [h]
  rfl

end Program

namespace Workspaces

open Program

variable {α : Type} {users : Table .user User} {change change' : Members → Except Error Members}
  {action action' : Action Workspace}

/-- An action gives the workspace under an id other members. As long as there are certain users, it
succeeds exactly when the workspace is given out, its members allow the change and the snapshot can
be written; and then the workspace is filed with the members that the change makes. -/
def Regroups (operator : Operator) (users : Table .user User) (id : WorkspaceId)
    (change : Members → Except Error Members) (action : Action Workspace) : Prop :=
  ∀ (moment : Moment) (directory directory' : Directory) (ws : Workspace),
    directory.store.tables.Filed → directory.store.tables.users = users →
      (action.perform moment directory = (.ok ws, directory') ↔
        directory.store.Writable moment ∧ ∃ row members,
          directory.store.tables.workspaces.get? id = some row ∧ row.Restorable ∧
            change row.members = .ok members ∧ ws = row.withMembers operator moment.now members ∧
            directory' = directory.withMembers operator moment.now members row)

/-- What becomes of a row that has been restored and given other members. -/
theorem withDefaultPolicy_restored (operator : Operator) (now : Instant) (members : Members)
    (row : Workspace) :
    withDefaultPolicy operator now
        { row with name := Workspace.titled row.name, members, updatedAt := now } =
      row.withMembers operator now members := by
  have hstamp : ({ row with name := Workspace.titled row.name, members, updatedAt := now } :
      Workspace).updatedAt = now := by
    dsimp only
  rw [withDefaultPolicy_of_stamped hstamp, Workspace.withMembers]

/-- An edit by an owner gives a workspace other members if this is all that its program does. -/
theorem regroups_edit {user : UserId} (huser : operator.user = some user)
    (howning : id ∈ operator.owning) {body : UserId → Instant → Workspace → Program Workspace}
    (hbody : ∀ {moment : Moment} {directory : Directory} {ws ws' : Workspace} {s : Draft × Nat},
      directory.store.tables.Filed → directory.store.tables.users = users →
        ((body user moment.now ws).Ends moment.ids (Usecase.opening directory) ws' s ↔
          s = Usecase.opening directory ∧ ∃ members, change ws.members = .ok members ∧
            ws' = withDefaultPolicy operator moment.now
              { ws with members, updatedAt := moment.now })) :
    Regroups operator users id change (edit (ownership id) id operator unchecked body) := by
  intro moment directory directory' ws' hfiled husers
  rw [perform_edit_eq_ok rfl]
  constructor
  · rintro ⟨user', ws, s, huser', -, -, ⟨row, hrow, hrestore⟩, hends, hwritable, rfl⟩
    obtain rfl := Option.some.inj (huser.symm.trans huser')
    obtain ⟨hfit, rfl⟩ := Workspace.restore_eq_ok.1 hrestore
    obtain ⟨rfl, members, hmembers, rfl⟩ := (hbody hfiled husers).1 hends
    dsimp only
    rw [withDefaultPolicy_restored]
    exact ⟨hwritable, row, members, hrow, hfit, hmembers, rfl, rfl⟩
  · rintro ⟨hwritable, row, members, hrow, hfit, hmembers, rfl, rfl⟩
    refine ⟨user, { row with name := Workspace.titled row.name }, Usecase.opening directory, huser,
      check_ownership.2 howning, rfl, ⟨row, hrow, Workspace.restore_eq_ok.2 ⟨hfit, rfl⟩⟩,
      (hbody hfiled husers).2 ⟨rfl, members, hmembers, ?_⟩, hwritable, rfl⟩
    dsimp only
    rw [withDefaultPolicy_restored]

/-- A change of the members succeeds exactly when the caller is an owner, the workspace is given out,
its members allow the change and the snapshot can be written. -/
theorem perform_changeMembers_eq_ok {change : UserId → Members → Except Error Members} :
    (edit (ownership id) id operator unchecked fun user now ws =>
      settled operator now (ws.changeMembers now (change user))).perform moment directory =
        (.ok ws, directory') ↔
      ∃ user row members, operator.user = some user ∧ id ∈ operator.owning ∧
        directory.store.Writable moment ∧ directory.store.tables.workspaces.get? id = some row ∧
        row.Restorable ∧ change user row.members = .ok members ∧
        ws = row.withMembers operator moment.now members ∧
        directory' = directory.withMembers operator moment.now members row := by
  simp only [perform_edit_eq_ok (rfl : (ownership id).transactional = true), check_ownership,
    ends_settled, Workspace.changeMembers_eq_ok]
  constructor
  · rintro ⟨user, _, _, huser, howning, -, ⟨row, hrow, hrestore⟩, ⟨_, ⟨members, hmembers, rfl⟩, rfl,
      rfl⟩, hwritable, rfl⟩
    obtain ⟨hfit, rfl⟩ := Workspace.restore_eq_ok.1 hrestore
    dsimp only
    rw [withDefaultPolicy_restored]
    exact ⟨user, row, members, huser, howning, hwritable, hrow, hfit, hmembers, rfl, rfl⟩
  · rintro ⟨user, row, members, huser, howning, hwritable, hrow, hfit, hmembers, rfl, rfl⟩
    refine ⟨user, { row with name := Workspace.titled row.name }, _, huser, howning, rfl,
      ⟨row, hrow, Workspace.restore_eq_ok.2 ⟨hfit, rfl⟩⟩, ⟨_, ⟨members, hmembers, rfl⟩, ?_, rfl⟩,
      hwritable, rfl⟩
    dsimp only
    rw [withDefaultPolicy_restored]

/-- A change of the members that an owner lets pass gives the workspace other members. -/
theorem regroups_changeMembers {user : UserId} (huser : operator.user = some user)
    (howning : id ∈ operator.owning) (change : UserId → Members → Except Error Members) :
    Regroups operator users id (change user)
      (edit (ownership id) id operator unchecked fun user now ws =>
        settled operator now (ws.changeMembers now (change user))) := by
  intro moment directory directory' ws _ _
  rw [perform_changeMembers_eq_ok]
  constructor
  · rintro ⟨user', row, members, huser', -, hwritable, hrow, hfit, hmembers, hws, hdirectory⟩
    obtain rfl := Option.some.inj (huser.symm.trans huser')
    exact ⟨hwritable, row, members, hrow, hfit, hmembers, hws, hdirectory⟩
  · rintro ⟨hwritable, row, members, hrow, hfit, hmembers, hws, hdirectory⟩
    exact ⟨user, row, members, huser, howning, hwritable, hrow, hfit, hmembers, hws, hdirectory⟩

/-- A change of the members that is refused leaves everything as it is. -/
theorem perform_changeMembers_of_refused {user : UserId} (huser : operator.user = some user)
    (howning : id ∈ operator.owning) (hshows : directory.store.tables.Shows id ws)
    (change : UserId → Members → Except Error Members) {error : Error}
    (hrefused : change user ws.members = .error error) (moment : Moment) :
    (edit (ownership id) id operator unchecked fun user now ws =>
      settled operator now (ws.changeMembers now (change user))).perform moment directory =
        (.error error, directory) := by
  simp only [edit, Action.perform_bind, Action.perform_ofExcept, Operator.actor_eq_ok.2 huser,
    Action.perform_now]
  rw [Usecase.perform_run rfl, check_ownership.2 howning]
  dsimp only
  have hsettled : (settled operator moment.now
      (ws.changeMembers moment.now (change user))).onDraft moment.ids (Usecase.opening directory).1
        (Usecase.opening directory).2 = (.error error, Usecase.opening directory) := by
    rw [Workspace.changeMembers, hrefused]
    rfl
  have hunchecked : (Program.ofExcept (unchecked user)).Ends moment.ids
      (Usecase.opening directory) () (Usecase.opening directory) := rfl
  have hlookup : (Program.query (.workspace .none id)).Ends moment.ids
      (Usecase.opening directory) ws (Usecase.opening directory) :=
    ends_query.2 ⟨Query.answer_workspace.2 hshows, rfl⟩
  rw [Usecase.perform_runTransaction, onDraft_bind_of_ends hunchecked,
    onDraft_bind_of_ends hlookup, onDraft_bind_of_error hsettled]
  rfl

/-- What counts of a change is when it is allowed, and what it makes then. -/
theorem Regroups.congr (h : Regroups operator users id change action)
    (hchange : ∀ {members members'}, change' members = .ok members' ↔
      change members = .ok members') : Regroups operator users id change' action := by
  intro moment directory directory' ws hfiled husers
  simp only [hchange]
  exact h moment directory directory' ws hfiled husers

section Stored

variable (hfiled : directory.store.tables.Filed)
  (hrow : directory.store.tables.workspaces.get? id = some row) (hfit : row.Restorable)

include hfiled hrow hfit

/-- On a stored workspace, an action that gives it other members succeeds exactly when the members
allow it, and it is known what is left behind. -/
theorem Regroups.perform_eq_ok (h : Regroups operator directory.store.tables.users id change action)
    (hwritable : directory.store.Writable moment) :
    action.perform moment directory = (.ok ws, directory') ↔
      ∃ members, change row.members = .ok members ∧
        ws = row.withMembers operator moment.now members ∧
        directory' = directory.withMembers operator moment.now members row := by
  rw [h moment directory directory' ws hfiled rfl]
  constructor
  · rintro ⟨-, stored, members, hstored, -, hmembers, hws, hdirectory⟩
    obtain rfl := Option.some.inj (hrow.symm.trans hstored)
    exact ⟨members, hmembers, hws, hdirectory⟩
  · rintro ⟨members, hmembers, hws, hdirectory⟩
    exact ⟨hwritable, row, members, hrow, hfit, hmembers, hws, hdirectory⟩

/-- On a stored workspace, an action that gives it other members succeeds exactly when the members
allow it. -/
theorem Regroups.exists_ok_iff (h : Regroups operator directory.store.tables.users id change action)
    (hwritable : directory.store.Writable moment) :
    (∃ ws directory', action.perform moment directory = (.ok ws, directory')) ↔
      ∃ members, change row.members = .ok members := by
  simp only [h.perform_eq_ok hfiled hrow hfit hwritable]
  constructor
  · rintro ⟨_, _, members, hmembers, -⟩
    exact ⟨members, hmembers⟩
  · rintro ⟨members, hmembers⟩
    exact ⟨_, _, members, hmembers, rfl, rfl⟩

/-- Two actions that give a workspace the same members, or leave everything as it is, succeed alike;
and what they leave behind differs in the time of the last change at most. -/
theorem Regroups.alike (h : Regroups operator directory.store.tables.users id change action)
    (h' : Regroups operator directory.store.tables.users id change' action')
    (hacts : action.ActsOnce) (hacts' : action'.ActsOnce)
    (hwritable : directory.store.Writable moment) (hwritable' : directory.store.Writable moment')
    (hchanges : ∀ members, change row.members = .ok members ↔ change' row.members = .ok members) :
    ((∃ ws directory', action.perform moment directory = (.ok ws, directory')) ↔
      ∃ ws directory', action'.perform moment' directory = (.ok ws, directory')) ∧
    (action.perform moment directory).2.store.tables.AlikeButStamp id
      (action'.perform moment' directory).2.store.tables := by
  have hsuccess : (∃ ws directory', action.perform moment directory = (.ok ws, directory')) ↔
      ∃ ws directory', action'.perform moment' directory = (.ok ws, directory') := by
    rw [h.exists_ok_iff hfiled hrow hfit hwritable, h'.exists_ok_iff hfiled hrow hfit hwritable']
    exact exists_congr hchanges
  refine ⟨hsuccess, ?_⟩
  match houtcome : action.perform moment directory,
    houtcome' : action'.perform moment' directory with
  | (.ok ws, directory₁), (.ok ws', directory₂) =>
    obtain ⟨members, hmembers, -, rfl⟩ :=
      (h.perform_eq_ok hfiled hrow hfit hwritable).1 houtcome
    obtain ⟨members', hmembers', -, rfl⟩ :=
      (h'.perform_eq_ok hfiled hrow hfit hwritable').1 houtcome'
    obtain rfl := Except.ok.inj (hmembers'.symm.trans ((hchanges members).1 hmembers))
    have hown := hfiled.workspaces hrow
    exact hown ▸ Tables.alikeButStamp_withMembers ..
  | (.error error, directory₁), (.error error', directory₂) =>
    dsimp only
    rw [hacts.store_of_error houtcome, hacts'.store_of_error houtcome']
    exact .refl hrow
  | (.ok ws, directory₁), (.error error', directory₂) =>
    obtain ⟨ws', directory', hok⟩ := hsuccess.1 ⟨ws, directory₁, houtcome⟩
    exact nomatch houtcome'.symm.trans hok
  | (.error error, directory₁), (.ok ws', directory₂) =>
    obtain ⟨ws, directory', hok⟩ := hsuccess.2 ⟨ws', directory₂, houtcome'⟩
    exact nomatch houtcome.symm.trans hok

/-- Actions that give a workspace other members, taken one after the other, succeed exactly when all
of the changes are allowed in turn; and then just the last members and the last time are left
behind. -/
theorem inTurn_eq_ok {change : α → Members → Except Error Members} {action : α → Action Workspace}
    (haction : ∀ a, Regroups operator directory.store.tables.users id (change a) (action a))
    (hsteady : ∀ {a members members'}, change a members = .ok members' → members.Steady members')
    {steps : List (Moment × α)} (hsome : steps ≠ [])
    (hwritable : ∀ step ∈ steps, directory.store.Writable step.1) :
    Action.inTurn action steps directory = .ok directory' ↔
      ∃ members, (steps.map Prod.snd).foldlM (fun members a => change a members) row.members =
          .ok members ∧
        directory' = directory.withMembers operator (steps.getLast hsome).1.now members row := by
  induction steps generalizing directory row with
  | nil => exact absurd rfl hsome
  | cons step rest ih =>
    obtain ⟨moment, a⟩ := step
    have hfirst {ws : Workspace} {next : Directory} :
        (action a).perform moment directory = (.ok ws, next) ↔ ∃ members,
          change a row.members = .ok members ∧ ws = row.withMembers operator moment.now members ∧
            next = directory.withMembers operator moment.now members row :=
      (haction a).perform_eq_ok hfiled hrow hfit (hwritable _ List.mem_cons_self)
    simp only [Action.inTurn_cons_eq_ok, hfirst, List.map_cons, List.foldlM_cons, bind_eq_ok]
    obtain rfl | hrest := eq_or_ne rest []
    · simp only [Action.inTurn, List.map_nil, List.foldlM_nil, pure_eq_ok, List.getLast_singleton]
      constructor
      · rintro ⟨_, _, ⟨members, hmembers, rfl, rfl⟩, hdirectory⟩
        exact ⟨members, ⟨members, hmembers, rfl⟩, (Except.ok.inj hdirectory).symm⟩
      · rintro ⟨members, ⟨_, hmembers, rfl⟩, rfl⟩
        exact ⟨_, _, ⟨_, hmembers, rfl, rfl⟩, rfl⟩
    · -- The other actions are taken on what the first has left behind.
      have hothers {members : Members} (hmembers : change a row.members = .ok members) :=
        have hown := hfiled.workspaces hrow
        have hfiled' : (directory.withMembers operator moment.now members row).store.tables.Filed :=
          hfiled.fileWorkspace _
        have hrow' : (directory.withMembers operator moment.now members
            row).store.tables.workspaces.get? id =
              some (row.withMembers operator moment.now members) :=
          hown ▸ Tables.get?_fileWorkspace_withMembers ..
        ih hfiled' hrow' (hfit.withMembers (hsteady hmembers) ..) haction hrest
          fun step hstep => hwritable step (List.mem_cons_of_mem _ hstep)
      simp only [List.getLast_cons hrest]
      constructor
      · rintro ⟨_, _, ⟨members, hmembers, rfl, rfl⟩, hin⟩
        obtain ⟨last, hlast, rfl⟩ := (hothers hmembers).1 hin
        exact ⟨last, ⟨members, hmembers, hlast⟩, Directory.withMembers_withMembers ..⟩
      · rintro ⟨last, ⟨members, hmembers, hlast⟩, rfl⟩
        exact ⟨_, _, ⟨members, hmembers, rfl, rfl⟩,
          (hothers hmembers).2 ⟨last, hlast, (Directory.withMembers_withMembers ..).symm⟩⟩

/-- A single action amounts to several that are taken one after the other if its change is made of
theirs: one way succeeds exactly when the other does, and they differ in the time of the last change
at most. -/
theorem Regroups.alike_inTurn {changes : α → Members → Except Error Members}
    {actions : α → Action Workspace}
    (h : Regroups operator directory.store.tables.users id change action)
    (hactions : ∀ a, Regroups operator directory.store.tables.users id (changes a) (actions a))
    (hsteady : ∀ {a members members'}, changes a members = .ok members' → members.Steady members')
    {steps : List (Moment × α)} (hsome : steps ≠ [])
    (hwritable : directory.store.Writable moment)
    (hsteps : ∀ step ∈ steps, directory.store.Writable step.1)
    (hchange : ∀ members, change row.members = .ok members ↔
      (steps.map Prod.snd).foldlM (fun members a => changes a members) row.members = .ok members) :
    ((∃ ws directory', action.perform moment directory = (.ok ws, directory')) ↔
      ∃ directory', Action.inTurn actions steps directory = .ok directory') ∧
    ∀ ws directory₁ directory₂, action.perform moment directory = (.ok ws, directory₁) →
      Action.inTurn actions steps directory = .ok directory₂ →
        directory₁.store.tables.AlikeButStamp id directory₂.store.tables := by
  have hsingly {directory' : Directory} :
      Action.inTurn actions steps directory = .ok directory' ↔
        ∃ members, (steps.map Prod.snd).foldlM (fun members a => changes a members) row.members =
            .ok members ∧
          directory' = directory.withMembers operator (steps.getLast hsome).1.now members row :=
    inTurn_eq_ok hfiled hrow hfit hactions hsteady hsome hsteps
  constructor
  · rw [h.exists_ok_iff hfiled hrow hfit hwritable]
    constructor
    · rintro ⟨members, hmembers⟩
      exact ⟨_, hsingly.2 ⟨members, (hchange members).1 hmembers, rfl⟩⟩
    · rintro ⟨directory', hok⟩
      obtain ⟨members, hmembers, -⟩ := hsingly.1 hok
      exact ⟨members, (hchange members).2 hmembers⟩
  · intro ws directory₁ directory₂ htogether hin
    obtain ⟨members, hmembers, -, rfl⟩ := (h.perform_eq_ok hfiled hrow hfit hwritable).1 htogether
    obtain ⟨members', hmembers', rfl⟩ := hsingly.1 hin
    obtain rfl := Except.ok.inj (hmembers'.symm.trans ((hchange members).1 hmembers))
    have hown := hfiled.workspaces hrow
    exact hown ▸ Tables.alikeButStamp_withMembers ..

end Stored

end Workspaces

end Roster
