import Roster.Proofs.Callers
import Roster.Proofs.Settlements
import Roster.Proofs.Writes

/-!
# Change stamps

Whatever changes a stored workspace or a stored user also gives them the time of the change. There
is one exception: a workspace is loaded under its name without blank ends, so a change that gives
nothing files a workspace under such a name, with the stamp it had. No stamp ever goes back while
the clock does not.
-/

namespace Roster

open Time (Instant)

/-! ## Stamped changes -/

/-- Every workspace and every user that is there was there before as they are, or bears the time. -/
structure Tables.Stamped (now : Instant) (t t' : Tables) : Prop where
  workspaces : ∀ {id ws}, t'.workspaces.get? id = some ws →
    t.workspaces.get? id = some ws ∨ ws.updatedAt = now
  users : ∀ {id user}, t'.users.get? id = some user →
    t.users.get? id = some user ∨ user.updatedAt = now

namespace Tables.Stamped

variable {now : Instant} {t t' t'' : Tables}

/-- Nothing needs a stamp where nothing changes. -/
theorem refl (now : Instant) (t : Tables) : t.Stamped now t :=
  ⟨.inl, .inl⟩

/-- Only workspaces and users bear stamps. -/
theorem congr (h : t.Stamped now t') (hsame : t'.SameEntries t'') : t.Stamped now t'' where
  workspaces := fun hws => h.workspaces (hsame.workspaces ▸ hws)
  users := fun huser => h.users (hsame.users ▸ huser)

/-- A workspace that bears the time may be filed. -/
theorem fileWorkspace (h : t.Stamped now t') {ws : Workspace} (hws : ws.updatedAt = now) :
    t.Stamped now (t'.fileWorkspace ws) where
  workspaces := fun hother => by
    obtain ⟨-, rfl⟩ | ⟨-, hother⟩ := Tables.get?_fileWorkspace.1 hother
    · exact .inr hws
    · exact h.workspaces hother
  users := h.users

/-- A user who bears the time, or is the one who was there, may be filed. -/
theorem fileUser (h : t.Stamped now t') {user : User}
    (huser : t.users.get? user.id = some user ∨ user.updatedAt = now) :
    t.Stamped now (t'.fileUser user) where
  workspaces := h.workspaces
  users := fun hother => by
    obtain ⟨rfl, rfl⟩ | ⟨-, hother⟩ := Table.get?_insert_eq_some.1 hother
    · exact huser
    · exact h.users hother

/-- A workspace may go. -/
theorem eraseWorkspace (now : Instant) (t : Tables) (id : WorkspaceId) :
    t.Stamped now { t with workspaces := t.workspaces.erase id } where
  workspaces := fun hws => .inl (Table.get?_erase_eq_some.1 hws).2
  users := .inl

end Tables.Stamped

/-! ## Stamps of single changes -/

namespace Workspace

variable {now : Instant} {ws ws' : Workspace}

/-- A workspace that is rearranged bears the time. -/
theorem Rearranged.updatedAt {operator : Operator} (h : ws.Rearranged operator now ws') :
    ws'.updatedAt = now := by
  obtain ⟨regrouped, hregrouped, rfl⟩ := h
  rw [Workspaces.withDefaultPolicy_eq, hregrouped.rest, ite_self]

/-- A workspace that is built from a plan without a time bears the time. -/
theorem updatedAt_of_build {plan : Plan} (hplan : plan.updatedAt = none)
    (h : plan.build now = .ok ws) : ws.updatedAt = now := by
  obtain ⟨id, members, -, -, -, -, rfl⟩ := build_eq_ok.1 h
  rw [hplan, Option.getD_none]

end Workspace

namespace User

variable {user : User} {now : Instant}

/-- A new account bears the time, whether it is given an identity or not. -/
theorem updatedAt_of_create {id : UserId} {name email : String} {home : WorkspaceId}
    (h : create id name email home now = .ok user) (identity : Option Identity) :
    (identity.elim user fun identity => (user.addIdentity identity now).1).updatedAt = now := by
  simp only [create, bind_eq_ok, pure_eq_ok] at h
  obtain ⟨_, -, _, -, rfl⟩ := h
  cases identity with
  | none => rfl
  | some identity =>
    rw [Option.elim_some, addIdentity]
    split <;> rfl

end User

/-! ## Stamps of operations -/

namespace Accounts

variable {operator : Operator} {moment : Moment} {directory directory' : Directory}

/-- A user who signs up and their personal workspace bear the time. -/
theorem stamped_of_signup {defaultPolicy : Option PolicyId} {request : Signup} {user : User}
    {home : Workspace}
    (h : (signup defaultPolicy request).perform moment directory = (.ok (user, home), directory')) :
    directory.store.tables.Stamped moment.now directory'.store.tables := by
  obtain ⟨email, homeId, created, hbuild, hcreate, rfl, -, -, -, htables⟩ := signup_inversion h
  rw [htables]
  exact ((Tables.Stamped.refl _ _).fileUser
    (.inr (User.updatedAt_of_create hcreate request.identity))).fileWorkspace
      (Workspace.updatedAt_of_build rfl hbuild)

/-- So do they if they sign up as a subject, and nothing changes if they are known. -/
theorem stamped_of_signupSubject {defaultPolicy : Option PolicyId} {subject email name : String}
    {account : User × Workspace}
    (h : (signupSubject defaultPolicy subject email name).perform moment directory =
      (.ok account, directory')) :
    directory.store.tables.Stamped moment.now directory'.store.tables := by
  obtain ⟨-, ⟨-, -, rfl⟩ | ⟨-, hsignup⟩⟩ := signupSubject_eq_ok.1 h
  · exact .refl _ _
  · exact stamped_of_signup hsignup

/-- A user who changes something about themselves bears the time, and so does their personal
workspace if it gets another name. -/
theorem stamped_of_updateMe (hfiled : directory.store.tables.Filed) {change : UserChange}
    {user : User}
    (h : (updateMe change operator).perform moment directory = (.ok user, directory')) :
    directory.store.tables.Stamped moment.now directory'.store.tables := by
  obtain ⟨me, before, -, hbefore, -, hstamp, -, hcases⟩ := updateMe_inversion h
  have huser : directory.store.tables.users.get? user.id = some user ∨
      user.updatedAt = moment.now := by
    refine hstamp.imp_left ?_
    rintro rfl
    rwa [hfiled.users hbefore]
  obtain ⟨-, htables⟩ | ⟨home, -, -, htables⟩ := hcases
  · rw [htables]
    exact (Tables.Stamped.refl _ _).fileUser huser
  · have hhome : directory.store.tables.Stamped moment.now
        (directory.store.tables.fileWorkspace (home.rename moment.now user.name)) :=
      (Tables.Stamped.refl _ _).fileWorkspace rfl
    rw [htables]
    exact hhome.fileUser huser

/-- The workspaces that a user leaves when they go for good bear the time. -/
theorem stamped_of_removeMe (hfiled : directory.store.tables.Filed)
    (h : (removeMe operator).perform moment directory = (.ok (), directory')) :
    directory.store.tables.Stamped moment.now directory'.store.tables := by
  obtain ⟨me, user, farewells, -, -, hpartings, hworkspaces, husers, -, -⟩ :=
    removeMe_inversion hfiled h
  refine ⟨fun {id ws} hws => ?_, fun huser => ?_⟩
  · rw [hworkspaces] at hws
    refine (mem_staying_of_parted hws).imp_right fun hstays => ?_
    obtain ⟨row, -, hparting⟩ := hpartings.only _ (mem_staying.1 hstays)
    exact hparting.updatedAt_of_stays
  · rw [husers] at huser
    exact .inl (Table.get?_erase_eq_some.1 huser).2

end Accounts

namespace Operation

variable {defaultPolicy : Option PolicyId} {operator held : Operator} {operation : Operation}
  {moment : Moment} {directory directory' : Directory} {t t' : Tables} {now : Instant}

/-- An operation gives nothing to a workspace, and files it under its name without blank ends; no
other workspace and no user changes. -/
def Tidies (operation : Operation) (t t' : Tables) : Prop :=
  ∃ id row, operation = updateWorkspace id {} ∧ t.workspaces.get? id = some row ∧
    (t.fileWorkspace { row with name := Workspace.titled row.name }).SameEntries t'

/-- A change that gives nothing files the workspace under its name without blank ends. -/
theorem tidies_of_revision {id : WorkspaceId} {ws' : Workspace}
    (h : Revision id ((updateWorkspace id {}).Makes operator now) t ws' t') :
    (updateWorkspace id {}).Tidies t t' := by
  obtain ⟨⟨row, hrow, hrestore⟩, hmade, hbase, rfl⟩ := h
  obtain ⟨-, rfl⟩ := Workspace.restore_eq_ok.1 hrestore
  obtain rfl := hmade.trans (WorkspaceChange.made_empty operator now _)
  refine ⟨id, row, rfl, hrow, ?_, hbase.users⟩
  rw [Tables.fileWorkspace, hbase.workspaces]
  rfl

/-- What an operation makes of a workspace bears the time, unless it gives nothing. -/
theorem stamped_of_revision {id : WorkspaceId} {ws' : Workspace} (hid : operation.revised? = some id)
    (h : Revision id (operation.Makes operator now) t ws' t') :
    t.Stamped now t' ∨ operation.Tidies t t' := by
  have hstamped (hnow : ws'.updatedAt = now) : t.Stamped now t' := by
    obtain ⟨-, -, hbase, rfl⟩ := h
    exact ((Tables.Stamped.refl now t).congr hbase).fileWorkspace hnow
  cases operation with
  | updateWorkspace id' change =>
    obtain rfl : id' = id := Option.some.inj hid
    by_cases hnothing : change = {}
    · subst hnothing
      exact .inr (tidies_of_revision h)
    · obtain ⟨-, hmade, -, -⟩ := h
      refine .inl (hstamped ?_)
      rw [hmade]
      exact if_neg hnothing
  | _ =>
    obtain ⟨-, hmade, -, -⟩ := h
    exact .inl (hstamped (Workspace.Rearranged.updatedAt hmade))

/-- An operation that returns a workspace, be it a new one, stamps what it changes, unless it gives
nothing. -/
theorem stamped_of_returned {action : Action Workspace} {ws : Workspace}
    (hreturned : operation.returned? operator = some action)
    (h : action.perform moment directory = (.ok ws, directory')) :
    directory.store.tables.Stamped moment.now directory'.store.tables ∨
      operation.Tidies directory.store.tables directory'.store.tables := by
  obtain ⟨id, hid, hrevision⟩ | ⟨name, aliasName, firstUser, held, rfl, hcreate⟩ :=
    cases_of_returned hreturned h
  · exact stamped_of_revision hid hrevision
  · obtain ⟨user, id, -, -, -, -, -, hbuild, htables⟩ := Workspaces.create_inversion hcreate
    rw [htables]
    exact .inl ((Tables.Stamped.refl _ _).fileWorkspace (Workspace.updatedAt_of_build rfl hbuild))

/-- An operation that succeeds stamps what it changes, unless it gives nothing. -/
theorem stamped_of_perform (hfiled : directory.store.tables.Filed)
    (h : (operation.act defaultPolicy operator).perform moment directory =
      (.ok held, directory')) :
    directory.store.tables.Stamped moment.now directory'.store.tables ∨
      operation.Tidies directory.store.tables directory'.store.tables := by
  have heffect := effect_of_perform hfiled h
  cases operation with
  | createWorkspace name aliasName firstUser =>
    obtain ⟨⟨ws, _⟩, hcreate, -⟩ := Action.perform_bind_pure_eq_ok.1 h
    exact stamped_of_returned rfl (Action.perform_bind_pure_eq_ok.2 ⟨_, hcreate, rfl⟩)
  | updateWorkspace | addUserMember | addIntegrationMember | updateUserMember
    | updateIntegrationMember | removeUserMember | removeMultipleUserMembers | removeIntegration
    | removeIntegrations | transferOwnership =>
    obtain ⟨ws, hdone, -⟩ := Action.perform_bind_pure_eq_ok.1 h
    exact stamped_of_returned rfl hdone
  | signup =>
    obtain ⟨_, hdone, -⟩ := Action.perform_bind_pure_eq_ok.1 h
    exact .inl (Accounts.stamped_of_signup hdone)
  | signupSubject =>
    obtain ⟨_, hdone, -⟩ := Action.perform_bind_pure_eq_ok.1 h
    exact .inl (Accounts.stamped_of_signupSubject hdone)
  | updateMe =>
    obtain ⟨_, hdone, -⟩ := Action.perform_bind_pure_eq_ok.1 h
    exact .inl (Accounts.stamped_of_updateMe hfiled hdone)
  | removeMe =>
    obtain ⟨_, hdone, -⟩ := Action.perform_bind_pure_eq_ok.1 h
    exact .inl (Accounts.stamped_of_removeMe hfiled hdone)
  | removeWorkspace id =>
    cases heffect with
    | removeWorkspace heffect =>
      obtain ⟨-, -, -, -, hrewrites⟩ := heffect
      exact .inl ((Tables.Stamped.eraseWorkspace _ _ id).congr
        ⟨hrewrites.workspaces, hrewrites.users⟩)
    | edit hedited => exact nomatch hedited
    | leave hleaving => exact nomatch hleaving
  | createRole | updateRole | removeRole | updatePermittable | addWorkspaceRole =>
    obtain ⟨hworkspaces, husers⟩ := heffect.same_of_governs trivial
    exact .inl ((Tables.Stamped.refl _ _).congr ⟨hworkspaces, husers⟩)

end Operation

/-! ## Stamps of calls -/

namespace Call

variable {store : Store}

/-- Some calls follow each other under a clock that never goes back. -/
def Timely (calls : List Call) : Prop :=
  calls.Pairwise fun earlier later => ¬ later.moment.now < earlier.moment.now

/-- A call gives nothing to a workspace, and what it changes about it all the same is not stamped: the
name that the workspace bears has blank ends or is blank, and its stamp is not the time. -/
def MissesStamp (call : Call) (store : Store) : Prop :=
  ∃ id row, call.operation = .updateWorkspace id {} ∧ store.tables.workspaces.get? id = some row ∧
    Workspace.titled row.name ≠ row.name ∧ row.updatedAt ≠ call.moment.now ∧
    ∃ held, (call.perform store).1 = .ok held

/-- A call stamps what it changes, or it succeeds and gives nothing. -/
theorem stamped_or_tidies (call : Call) (hfiled : store.tables.Filed) :
    store.tables.Stamped call.moment.now (call.perform store).2.tables ∨
      (∃ held, (call.perform store).1 = .ok held) ∧
        call.operation.Tidies store.tables (call.perform store).2.tables := by
  obtain ⟨error, hcall⟩ | ⟨held, directory, hcall, hrun⟩ := call.perform_inversion store
  · rw [hcall]
    exact .inl (.refl _ _)
  · rw [hcall]
    exact (Operation.stamped_of_perform hfiled hrun).imp_right fun htidies => ⟨⟨held, rfl⟩, htidies⟩

/-- A call that gives nothing to a workspace and succeeds tidies its name. -/
theorem tidies_of_succeeds (call : Call) {id : WorkspaceId}
    (hoperation : call.operation = .updateWorkspace id {})
    (h : ∃ held, (call.perform store).1 = .ok held) :
    call.operation.Tidies store.tables (call.perform store).2.tables := by
  obtain ⟨moment, defaultPolicy, operator, operation⟩ := call
  obtain rfl : operation = .updateWorkspace id {} := hoperation
  obtain ⟨held, hheld⟩ := h
  cases hrun : ((Operation.updateWorkspace id {}).act defaultPolicy operator).perform moment
      { store } with
  | mk outcome directory =>
    rw [Call.perform, hrun] at hheld
    obtain rfl : outcome = .ok held := hheld
    rw [Call.perform, hrun]
    obtain ⟨ws, hdone, -⟩ := Action.perform_bind_pure_eq_ok.1 hrun
    exact Operation.tidies_of_revision (Workspaces.revision_of_update hdone)

/-- A call stamps what it changes exactly unless it misses a stamp. -/
theorem stamped_iff (call : Call) (hfiled : store.tables.Filed) :
    store.tables.Stamped call.moment.now (call.perform store).2.tables ↔ ¬ call.MissesStamp store := by
  constructor
  · rintro hstamped ⟨id, row, hoperation, hrow, hname, hstamp, hsucceeds⟩
    obtain ⟨id', row', hoperation', hrow', hworkspaces, -⟩ :=
      call.tidies_of_succeeds hoperation hsucceeds
    cases hoperation.symm.trans hoperation'
    obtain rfl := Option.some.inj (hrow.symm.trans hrow')
    obtain rfl := hfiled.workspaces hrow
    have hws : (call.perform store).2.tables.workspaces.get? row.id =
        some { row with name := Workspace.titled row.name } := by
      rw [hworkspaces]
      exact Tables.get?_fileWorkspace.2 (.inl ⟨rfl, rfl⟩)
    obtain hsame | hnow := hstamped.workspaces hws
    · have hnames := congrArg Workspace.name (Option.some.inj (hsame.symm.trans hrow))
      exact hname hnames
    · exact hstamp hnow
  · intro hnot
    obtain hstamped | ⟨hsucceeds, id, row, hoperation, hrow, hworkspaces, husers⟩ :=
      call.stamped_or_tidies hfiled
    · exact hstamped
    · refine ⟨fun {key ws} hws => ?_, fun huser => .inl (husers ▸ huser)⟩
      rw [hworkspaces] at hws
      obtain ⟨rfl, rfl⟩ | ⟨-, hws⟩ := Tables.get?_fileWorkspace.1 hws
      · obtain rfl := hfiled.workspaces hrow
        by_cases hname : Workspace.titled row.name = row.name
        · refine .inl ?_
          rw [hname]
          exact hrow
        · refine .inr ?_
          by_contra hstamp
          exact hnot ⟨row.id, row, hoperation, hrow, hname, hstamp, hsucceeds⟩
      · exact .inl hws

end Call

/-! ## Stamps along runs -/

/-- No instant is before itself. -/
theorem Time.Instant.lt_irrefl (i : Instant) : ¬ i < i := by
  change ¬ Instant.lt i i
  unfold Instant.lt
  omega

namespace Tables

/-- The stamp under a key: only workspaces and users have one. -/
def stamp? (t : Tables) : Key → Option Instant
  | .workspace id => (t.workspaces.get? id).map Workspace.updatedAt
  | .user id => (t.users.get? id).map User.updatedAt
  | .role _ | .permittable _ => none

/-- No stamp is later than a time. -/
def Until (t : Tables) (time : Instant) : Prop :=
  ∀ key stamp, t.stamp? key = some stamp → ¬ time < stamp

/-- No stamp is earlier than the one that used to be under its key. -/
def Ages (t t' : Tables) : Prop :=
  ∀ key stamp stamp', t.stamp? key = some stamp → t'.stamp? key = some stamp' → ¬ stamp' < stamp

variable {now time : Instant} {t t' t₀ : Tables} {operation : Operation}

/-- Where changes are stamped, every stamp is the time or was there under its key. -/
theorem Stamped.stamp? (h : t.Stamped now t') {key : Key} {stamp : Instant}
    (hstamp : t'.stamp? key = some stamp) : t.stamp? key = some stamp ∨ stamp = now := by
  cases key with
  | workspace id =>
    obtain ⟨ws, hws, rfl⟩ := Option.map_eq_some_iff.1 hstamp
    exact (h.workspaces hws).imp_left fun hbefore => Option.map_eq_some_iff.2 ⟨ws, hbefore, rfl⟩
  | user id =>
    obtain ⟨user, huser, rfl⟩ := Option.map_eq_some_iff.1 hstamp
    exact (h.users huser).imp_left fun hbefore => Option.map_eq_some_iff.2 ⟨user, hbefore, rfl⟩
  | role | permittable => exact nomatch hstamp

/-- Where a name is tidied, every stamp was there under its key. -/
theorem stamp?_of_tidies (hfiled : t.Filed) (h : operation.Tidies t t') {key : Key}
    {stamp : Instant} (hstamp : t'.stamp? key = some stamp) : t.stamp? key = some stamp := by
  obtain ⟨id, row, -, hrow, hworkspaces, husers⟩ := h
  cases key with
  | workspace key =>
    obtain ⟨ws, hws, rfl⟩ := Option.map_eq_some_iff.1 hstamp
    rw [hworkspaces] at hws
    obtain ⟨rfl, rfl⟩ | ⟨-, hws⟩ := Tables.get?_fileWorkspace.1 hws
    · obtain rfl := hfiled.workspaces hrow
      exact Option.map_eq_some_iff.2 ⟨row, hrow, rfl⟩
    · exact Option.map_eq_some_iff.2 ⟨ws, hws, rfl⟩
  | user key =>
    obtain ⟨user, huser, rfl⟩ := Option.map_eq_some_iff.1 hstamp
    rw [husers] at huser
    exact Option.map_eq_some_iff.2 ⟨user, huser, rfl⟩
  | role | permittable => exact nomatch hstamp

/-- Tables are no younger than themselves. -/
theorem Ages.refl (t : Tables) : t.Ages t := by
  intro key stamp stamp' hstamp hstamp'
  obtain rfl := Option.some.inj (hstamp.symm.trans hstamp')
  exact stamp.lt_irrefl

end Tables

namespace Store

variable {store : Store} {time : Instant} {t₀ : Tables}

/-- After a call every stamp is the time of the call or was there under its key. -/
theorem stamp?_of_call (hfiled : store.tables.Filed) (call : Call) {key : Key} {stamp : Instant}
    (hstamp : (call.perform store).2.tables.stamp? key = some stamp) :
    store.tables.stamp? key = some stamp ∨ stamp = call.moment.now := by
  obtain hstamped | ⟨-, htidies⟩ := call.stamped_or_tidies hfiled
  · exact hstamped.stamp? hstamp
  · exact .inl (Tables.stamp?_of_tidies hfiled htidies hstamp)

/-- No stamp is later than a time after calls that are not later. -/
theorem until_after (hsound : store.tables.Sound) (huntil : store.tables.Until time)
    (calls : List Call) (hclock : ∀ call ∈ calls, ¬ time < call.moment.now) :
    (store.after calls).tables.Until time := by
  induction calls generalizing store with
  | nil => exact huntil
  | cons call rest ih =>
    refine ih (hsound.of_call call) (fun key stamp hstamp => ?_) fun later hlater =>
      hclock later (List.mem_cons_of_mem _ hlater)
    obtain hbefore | rfl := stamp?_of_call hsound.filed call hstamp
    · exact huntil key stamp hbefore
    · exact hclock call List.mem_cons_self

/-- No stamp goes back from some tables on, after calls that are not earlier than the stamps there. -/
theorem ages_after (hsound : store.tables.Sound) (hages : t₀.Ages store.tables) (calls : List Call)
    (hclock : ∀ call ∈ calls, t₀.Until call.moment.now) : t₀.Ages (store.after calls).tables := by
  induction calls generalizing store with
  | nil => exact hages
  | cons call rest ih =>
    refine ih (hsound.of_call call) (fun key stamp stamp' hstamp hstamp' => ?_) fun later hlater =>
      hclock later (List.mem_cons_of_mem _ hlater)
    obtain hbefore | rfl := stamp?_of_call hsound.filed call hstamp'
    · exact hages key stamp stamp' hstamp hbefore
    · exact hclock call List.mem_cons_self key stamp hstamp

/-- However an empty store has been used, the next call stamps what it changes exactly unless it
misses a stamp; and while the clock does not go back, neither does any stamp, whatever is called. -/
theorem stamps_after (label : Nat) (file : Option String) (attached : Bool) (past : List Call) :
    let store := (blank label file attached).after past
    (∀ call : Call, store.tables.Stamped call.moment.now (call.perform store).2.tables ↔
      ¬ call.MissesStamp store) ∧
    ∀ future, Call.Timely (past ++ future) → store.tables.Ages (store.after future).tables := by
  have hblank := sound_blank label file attached
  have hsound := sound_after hblank past
  refine ⟨fun call => call.stamped_iff hsound.filed, fun future htimely => ?_⟩
  obtain ⟨-, -, hclock⟩ := List.pairwise_append.1 htimely
  refine ages_after hsound (.refl _) future fun later hlater => ?_
  refine until_after hblank (fun key stamp hstamp => ?_) past fun earlier hearlier =>
    hclock earlier hearlier later hlater
  cases key <;> exact nomatch hstamp

/-! ### A team under a name with blank ends -/

namespace Christening

/-- The moment some seconds later than the start. -/
def moment (seconds : Nat) : Moment :=
  { now := Instant.epoch.addSeconds seconds, ids := fun _ => "team", writeFault := none }

/-- Ann as an operator who owns some workspaces. -/
def ann (owning : List WorkspaceId) : Operator :=
  { user := some ⟨"ann"⟩, owning }

/-- Ann signs up. -/
def signup : Call where
  moment := moment 1
  defaultPolicy := none
  operator := {}
  operation := .signup
    { name := "Ann", email := "ann@example.com", user := some ⟨"ann"⟩, workspace := some ⟨"home"⟩ }

/-- Ann creates a team. -/
def foundation : Call where
  moment := moment 2
  defaultPolicy := none
  operator := ann []
  operation := .createWorkspace "Team" "" ⟨"ann"⟩

/-- Ann changes something about the team, or nothing. -/
def change (seconds : Nat) (change : WorkspaceChange) : Call where
  moment := moment seconds
  defaultPolicy := none
  operator := ann [⟨"team"⟩]
  operation := .updateWorkspace ⟨"team"⟩ change

/-- The empty store. -/
def empty : Store := blank 0 none false

/-- What has happened by the time the team bears its new name. -/
def past : List Call :=
  [signup, foundation, change 3 { name := some " Crew " }]

/-- The team as it is stored under its new name, and as it is stored once it has been changed in
nothing. -/
theorem get?_team :
    ((empty.after past).tables.workspaces.get? ⟨"team"⟩).map (fun ws => (ws.name, ws.updatedAt)) =
        some (" Crew ", (moment 3).now) ∧
      (((change 4 {}).perform (empty.after past)).2.tables.workspaces.get? ⟨"team"⟩).map
        (fun ws => (ws.name, ws.updatedAt)) = some ("Crew", (moment 3).now) := by
  decide +kernel

/-- The team is stamped when it gets an address, and no stamp has gone back by then. -/
theorem stamped_address :
    Call.Timely (past ++ [change 4 { email := some "crew@example.com" }]) ∧
      (empty.after past).tables.Stamped (moment 4).now
        ((change 4 { email := some "crew@example.com" }).perform (empty.after past)).2.tables ∧
      (empty.after past).tables.Ages
        ((empty.after past).after [change 4 { email := some "crew@example.com" }]).tables := by
  have htimely : Call.Timely (past ++ [change 4 { email := some "crew@example.com" }]) := by
    unfold Call.Timely
    decide +kernel
  refine ⟨htimely, ?_, (stamps_after 0 none false past).2 _ htimely⟩
  refine ((stamps_after 0 none false past).1 (change 4 { email := some "crew@example.com" })).2 ?_
  rintro ⟨id, row, hoperation, -⟩
  exact absurd hoperation (by simp [change])

/-- The team is not stamped when it is changed in nothing, although its stored name changes. -/
theorem not_stamped_nothing :
    Call.Timely (past ++ [change 4 {}]) ∧
      ¬ (empty.after past).tables.Stamped (change 4 {}).moment.now
        ((change 4 {}).perform (empty.after past)).2.tables := by
  constructor
  · unfold Call.Timely
    decide +kernel
  · intro hstamped
    obtain ⟨hbefore, hafter⟩ := get?_team
    obtain ⟨ws, hws, hrow⟩ := Option.map_eq_some_iff.1 hafter
    obtain ⟨hname, hstamp⟩ := Prod.mk.inj hrow
    obtain hsame | hnow := hstamped.workspaces hws
    · rw [hsame, Option.map_some, hrow] at hbefore
      exact absurd hbefore (by decide)
    · rw [hstamp] at hnow
      exact absurd hnow (by decide +kernel)

end Christening

end Store

end Roster
