import Roster.Proofs.Arrivals
import Roster.Proofs.IdentityKeys

/-!
# Logging in as a subject

The first login as a subject signs somebody up; every later one finds them again, whatever address
and name it comes with. For an account keeps its subjects until its user goes for good, unless a
newcomer takes its place, and newcomers who are given new ids do not.
-/

namespace Roster

/-- The signup that an operation is, if it is one. Whoever signs up as a subject chooses no id. -/
def Operation.request? : Operation → Option Signup
  | signup request => some request
  | signupSubject subject email name => some { name, email, identity := some (.ofSubject subject) }
  | _ => none

/-- What an operation that succeeds makes of the account under an id, where one id has been drawn
first. -/
inductive Operation.AccountStep (operator : Operator) (operation : Operation) (drawn id : UserId)
    (row : User) : Option User → Prop
  | kept : AccountStep operator operation drawn id row (some row)
  | revised {change : UserChange} {user : User} (hupdate : operation = .updateMe change)
    (hactor : operator.user = some id) (hworkspace : user.workspace = row.workspace)
    (hidentities : user.identities = row.identities) :
    AccountStep operator operation drawn id row (some user)
  | removed (hremoval : operation = .removeMe) (hactor : operator.user = some id) :
    AccountStep operator operation drawn id row none
  | replaced {request : Signup} {user : User} (hrequest : operation.request? = some request)
    (hid : request.user.getD drawn = id) : AccountStep operator operation drawn id row (some user)

/-- Whoever signs up with a call does so under a new id: they choose none, and no id that may be
drawn is that of a user. -/
def Call.EnrolsAfresh (call : Call) (store : Store) : Prop :=
  ∀ request, call.operation.request? = some request →
    request.user = none ∧ ∀ drawn, store.tables.users.contains ⟨call.moment.ids drawn⟩ = false

/-- Whoever signs up in a run does so under a new id. -/
def Store.EnrolsAfresh (store : Store) : List Call → Prop
  | [] => True
  | call :: calls => call.EnrolsAfresh store ∧ (call.perform store).2.EnrolsAfresh calls

/-- The user under an id has a home and logs in as a subject. -/
def Tables.LogsIn (t : Tables) (subject : String) (id : UserId) (home : WorkspaceId) : Prop :=
  ∃ row, t.users.get? id = some row ∧ row.workspace = home ∧ row.hasSubject subject = true

/-- Whoever is given an identity logs in as its subject. -/
theorem User.hasSubject_addIdentity (user : User) (identity : Identity) (now : Time.Instant) :
    (user.addIdentity identity now).1.hasSubject identity.subject = true := by
  unfold addIdentity
  split
  · assumption
  · simp [hasSubject]

/-! ## What becomes of an account -/

namespace Operation.AccountStep

variable {operator held : Operator} {operation : Operation} {id : UserId} {row : User}
  {defaultPolicy : Option PolicyId} {moment : Moment} {directory directory' : Directory}

/-- A signup keeps an account or takes its place. -/
theorem of_signup {request : Signup} {account : User × Workspace}
    (hrow : directory.store.tables.users.get? id = some row)
    (h : (Accounts.signup defaultPolicy request).perform moment directory =
      (.ok account, directory'))
    (hrequest : operation.request? = some request) :
    AccountStep operator operation ⟨moment.ids directory.drawn⟩ id row
      (directory'.store.tables.users.get? id) := by
  obtain ⟨htakes, hid⟩ := Accounts.takesIn_of_signup h
  by_cases hsame : account.1.id = id
  · rw [htakes.users, Table.get?_insert, if_pos hsame]
    exact .replaced hrequest (hid.symm.trans hsame)
  · rw [htakes.kept hsame, hrow]
    exact .kept

/-- An operation that is no signup keeps an account, or it is a change or a removal that its user
asked for. -/
theorem of_effect {t t' : Tables} {drawn : UserId} (heffect : Effect operator t operation held t')
    (hnone : operation.request? = none) (hfiled : t.Filed) (hrow : t.users.get? id = some row) :
    AccountStep operator operation drawn id row (t'.users.get? id) := by
  have hkept (hsame : t'.users = t.users) :
      AccountStep operator operation drawn id row (t'.users.get? id) := by
    rw [hsame, hrow]
    exact .kept
  -- A change of the caller is filed under their id.
  have hfile {change : UserChange} {me : UserId} {user user' : User}
      (hupdate : operation = .updateMe change) (hactor : operator.user = some me)
      (huser : t.users.get? me = some user) (hid : user'.id = user.id)
      (hhome : user'.workspace = user.workspace) (hidentities : user'.identities = user.identities)
      (husers : t'.users = t.users.insert user'.id user') :
      AccountStep operator operation drawn id row (t'.users.get? id) := by
    rw [husers, Table.get?_insert, hid, hfiled.users huser]
    split
    · rename_i hsame
      subst hsame
      obtain rfl := Option.some.inj (hrow.symm.trans huser)
      exact .revised hupdate hactor hhome hidentities
    · rw [hrow]
      exact .kept
  cases heffect with
  | signup | signupNewSubject | signupKnownSubject => exact nomatch hnone
  | createWorkspace heffect | createRole heffect | updateRole heffect | updatePermittable heffect
  | addNewRole heffect | edit _ heffect =>
    obtain ⟨_⟩ := heffect
    exact hkept rfl
  | leave _ heffect =>
    obtain ⟨-, -, -, -, -, hrewrites⟩ := heffect
    exact hkept hrewrites.users
  | removeWorkspace heffect =>
    obtain ⟨-, -, -, -, hrewrites⟩ := heffect
    exact hkept hrewrites.users
  | removeRole heffect =>
    obtain ⟨hrewrites⟩ := heffect
    exact hkept hrewrites.users
  | addKnownRole => exact hkept rfl
  | updateMe heffect =>
    cases heffect with
    | sameName hactor huser hid hhome _ hidentities =>
      exact hfile rfl hactor huser hid hhome hidentities rfl
    | newName hactor huser hid hhome _ _ _ _ _ hidentities =>
      exact hfile rfl hactor huser hid hhome hidentities rfl
  | removeMe heffect =>
    obtain ⟨hactor, -, -, -, -, husers⟩ := heffect
    rw [husers, Table.get?_erase]
    split
    · rename_i hsame
      exact .removed rfl (hsame ▸ hactor)
    · rw [hrow]
      exact .kept

/-- Every account has its next step. -/
theorem of_perform (hfiled : directory.store.tables.Filed)
    (hrow : directory.store.tables.users.get? id = some row)
    (h : (operation.act defaultPolicy operator).perform moment directory = (.ok held, directory')) :
    AccountStep operator operation ⟨moment.ids directory.drawn⟩ id row
      (directory'.store.tables.users.get? id) := by
  have hother (hnone : operation.request? = none) :
      AccountStep operator operation ⟨moment.ids directory.drawn⟩ id row
        (directory'.store.tables.users.get? id) :=
    of_effect (effect_of_perform hfiled h) hnone hfiled hrow
  cases operation with
  | signup request =>
    obtain ⟨_, hdone, rfl⟩ := Action.perform_bind_pure_eq_ok.1 h
    exact of_signup hrow hdone rfl
  | signupSubject subject email name =>
    obtain ⟨_, hdone, rfl⟩ := Action.perform_bind_pure_eq_ok.1 h
    obtain ⟨-, ⟨-, -, rfl⟩ | ⟨-, hsignup⟩⟩ := Accounts.signupSubject_eq_ok.1 hdone
    · rw [hrow]
      exact .kept
    · exact of_signup hrow hsignup rfl
  | _ => exact hother rfl

/-- A call that fails keeps every account; one that succeeds makes its next step. -/
theorem of_call {store : Store} (hfiled : store.tables.Filed)
    (hrow : store.tables.users.get? id = some row) (call : Call) :
    AccountStep call.operator call.operation ⟨call.moment.ids 0⟩ id row
      ((call.perform store).2.tables.users.get? id) := by
  obtain ⟨error, hcall⟩ | ⟨held, directory, hcall, hrun⟩ := call.perform_inversion store
  · rw [hcall, hrow]
    exact .kept
  · rw [hcall]
    exact of_perform hfiled hrow hrun

end Operation.AccountStep

/-! ## Runs -/

variable {store : Store} {subject : String} {me : UserId} {home : WorkspaceId}

/-- A call by which whoever signs up does so under a new id keeps every account, if it is a signup at
all. -/
theorem Call.EnrolsAfresh.kept {call : Call} (h : call.EnrolsAfresh store) {request : Signup}
    (hrequest : call.operation.request? = some request) (hfiled : store.tables.Filed)
    {id : UserId} {row : User} (hrow : store.tables.users.get? id = some row) :
    (call.perform store).2.tables.users.get? id = some row := by
  generalize hafter : (call.perform store).2.tables.users.get? id = after
  have hstep := Operation.AccountStep.of_call hfiled hrow call
  rw [hafter] at hstep
  cases hstep with
  | kept => rfl
  | revised hupdate =>
    rw [hupdate] at hrequest
    exact nomatch hrequest
  | removed hremoval =>
    rw [hremoval] at hrequest
    exact nomatch hrequest
  | replaced hrequest' hid =>
    obtain ⟨hunchosen, hnew⟩ := h _ hrequest'
    rw [hunchosen, Option.getD_none] at hid
    have hfree := hnew 0
    rw [hid, Table.contains_eq_false_iff, hrow] at hfree
    exact nomatch hfree

namespace Tables.LogsIn

/-- A user keeps their home and their subject unless a call removes them. -/
theorem of_call (h : store.tables.LogsIn subject me home) (hfiled : store.tables.Filed) {call : Call}
    (hafresh : call.EnrolsAfresh store)
    (hstays : call.operation = .removeMe → call.operator.user ≠ some me) :
    (call.perform store).2.tables.LogsIn subject me home := by
  obtain ⟨row, hrow, hhome, hsubject⟩ := h
  generalize hafter : (call.perform store).2.tables.users.get? me = after
  have hstep := Operation.AccountStep.of_call hfiled hrow call
  rw [hafter] at hstep
  cases hstep with
  | kept => exact ⟨row, hafter, hhome, hsubject⟩
  | @revised _ user _ _ hworkspace hidentities =>
    refine ⟨user, hafter, hworkspace.trans hhome, ?_⟩
    rw [User.hasSubject, hidentities]
    exact hsubject
  | removed hremoval hactor => exact absurd hactor (hstays hremoval)
  | replaced hrequest =>
    exact ⟨row, hafresh.kept hrequest hfiled hrow, hhome, hsubject⟩

/-- A user keeps their home and their subject along a run that does not remove them. -/
theorem after (h : store.tables.LogsIn subject me home) (hsound : store.tables.Sound)
    {calls : List Call} (hafresh : store.EnrolsAfresh calls)
    (hstays : ∀ call ∈ calls, call.operation = .removeMe → call.operator.user ≠ some me) :
    (store.after calls).tables.LogsIn subject me home := by
  induction calls generalizing store with
  | nil => exact h
  | cons call rest ih =>
    exact ih (h.of_call hsound.filed hafresh.1 (hstays call List.mem_cons_self))
      (hsound.of_call call) hafresh.2 fun later hlater => hstays later (List.mem_cons_of_mem _ hlater)

end Tables.LogsIn

/-! ## The first login and the later ones -/

/-- The first user found by a subject is the one who logs in as it. -/
theorem Tables.Identifying.find?_subject {t : Tables} (h : t.Identifying) {row : User}
    (hrow : t.users.get? me = some row) (hsubject : row.hasSubject subject = true) :
    t.users.values.find? (·.hasSubject subject) = some row := by
  cases hfound : t.users.values.find? (·.hasSubject subject) with
  | none =>
    have hnot := Table.test_of_find?_values_eq_none hfound hrow
    exact nomatch hsubject.symm.trans hnot
  | some other =>
    obtain ⟨key, hkey, hother⟩ := Table.get?_of_find?_values hfound
    obtain ⟨identity, hidentity, hshared⟩ := List.any_eq_true.1 hsubject
    obtain rfl := of_decide_eq_true hshared
    obtain rfl := h.subjects hrow hkey ⟨identity, hidentity, hother⟩
    exact congrArg some (Option.some.inj (hkey.symm.trans hrow))

/-- The home of a user is given out as it is stored. -/
theorem Tables.Sound.exists_home {t : Tables} (h : t.Sound) {row : User}
    (hrow : t.users.get? me = some row) :
    ∃ ws, t.workspaces.get? row.workspace = some ws ∧ ws.HomeOf row ∧ t.Shows row.workspace ws := by
  obtain ⟨ws, hws, hof⟩ := h.homes hrow
  have hfit := Workspace.exists_restore_iff.1 (h.restorable hws)
  have htitled : ({ ws with name := Workspace.titled ws.name } : Workspace) = ws := by
    rw [hof.name, h.titled hrow, ← hof.name]
  exact ⟨ws, hws, hof, ws, hws, Workspace.restore_eq_ok.2 ⟨hfit, htitled.symm⟩⟩

namespace Accounts

variable {defaultPolicy : Option PolicyId} {email name : String} {moment : Moment}
  {directory directory' : Directory} {user : User} {ws : Workspace}

/-- Whoever has logged in as a subject is stored as a user who logs in as it. -/
theorem logsIn_of_signupSubject (hfiled : directory.store.tables.Filed)
    (h : (signupSubject defaultPolicy subject email name).perform moment directory =
      (.ok (user, ws), directory')) :
    directory'.store.tables.LogsIn subject user.id user.workspace := by
  obtain ⟨-, ⟨hfound, -, rfl⟩ | ⟨-, hsignup⟩⟩ := signupSubject_eq_ok.1 h
  · obtain ⟨key, hkey, hsubject⟩ := Table.get?_of_find?_values hfound
    obtain rfl := hfiled.users hkey
    exact ⟨user, hkey, rfl, hsubject⟩
  · obtain ⟨htakes, -⟩ := takesIn_of_signup hsignup
    obtain ⟨_, _, created, -, -, rfl, -⟩ := signup_inversion hsignup
    refine ⟨_, ?_, rfl, created.hasSubject_addIdentity (.ofSubject subject) moment.now⟩
    rw [htakes.users, Table.get?_insert, if_pos rfl]

/-- Whoever logs in as a subject that is theirs is answered with their account and their home as they
are stored, and nothing changes. -/
theorem perform_signupSubject_of_logsIn (hsound : store.tables.Sound)
    (hidentifying : store.tables.Identifying) (h : store.tables.LogsIn subject me home)
    (hsubject : (Text.trim subject).isEmpty = false) :
    ∃ user ws, store.tables.users.get? me = some user ∧ user.workspace = home ∧
      store.tables.workspaces.get? home = some ws ∧ ws.HomeOf user ∧
      ∀ defaultPolicy email name moment drawn,
        (signupSubject defaultPolicy subject email name).perform moment { store, drawn } =
          (.ok (user, ws), { store, drawn }) := by
  obtain ⟨user, huser, rfl, hhas⟩ := h
  obtain ⟨ws, hws, hof, hshows⟩ := hsound.exists_home huser
  refine ⟨user, ws, huser, rfl, hws, hof, fun _ _ _ _ _ => ?_⟩
  exact signupSubject_eq_ok.2 ⟨hsubject, .inl ⟨hidentifying.find?_subject huser hhas, hshows, rfl⟩⟩

/-- However an empty store has been used, whoever signs up under a new id changes no account that is
there. And whoever has logged in as a subject logs in as it for good: after any further calls, as long
as whoever signs up does so under a new id and the user is not removed, a login as the subject is
answered with their account and their home as they are then, whatever address and name it comes with,
and changes nothing. -/
theorem logs_in_for_good (label : Nat) (file : Option String) (attached : Bool) (past : List Call) :
    let store := (Store.blank label file attached).after past
    (∀ (call : Call) (request : Signup), call.operation.request? = some request →
      call.EnrolsAfresh store → ∀ id row, store.tables.users.get? id = some row →
        (call.perform store).2.tables.users.get? id = some row) ∧
    ∀ defaultPolicy subject email name moment drawn user ws directory',
      (signupSubject defaultPolicy subject email name).perform moment { store, drawn } =
        (.ok (user, ws), directory') →
      ∀ future, directory'.store.EnrolsAfresh future →
        (∀ call ∈ future, call.operation = .removeMe → call.operator.user ≠ some user.id) →
        let now := directory'.store.after future
        ∃ user' ws', now.tables.users.get? user.id = some user' ∧
          user'.workspace = user.workspace ∧ now.tables.workspaces.get? user.workspace = some ws' ∧
          ws'.HomeOf user' ∧ ∀ defaultPolicy email name moment drawn,
            (signupSubject defaultPolicy subject email name).perform moment { store := now, drawn } =
              (.ok (user', ws'), { store := now, drawn }) := by
  intro store
  have hblank := Store.sound_blank label file attached
  have hsound : store.tables.Sound := Store.sound_after hblank past
  have hidentifying : store.tables.Identifying :=
    Store.identifying_after_of_sound hblank (Store.identifying_blank label file attached) past
  refine ⟨fun call request hrequest hafresh id row hrow =>
    hafresh.kept hrequest hsound.filed hrow, ?_⟩
  intro defaultPolicy subject email name moment drawn user ws directory' h future hafresh hstays now
  have hact : ((Operation.signupSubject subject email name).act defaultPolicy {}).perform moment
      { store, drawn } = (.ok {}, directory') := Action.perform_bind_pure_eq_ok.2 ⟨_, h, rfl⟩
  have heffect := Operation.effect_of_perform hsound.filed hact
  have hsound' := heffect.sound hsound
  have hidentifying' := heffect.identifying hsound.filed hidentifying
  have hlogs := (logsIn_of_signupSubject hsound.filed h).after hsound' hafresh hstays
  exact perform_signupSubject_of_logsIn (Store.sound_after hsound' future)
    (Store.identifying_after_of_sound hsound' hidentifying' future) hlogs (signupSubject_eq_ok.1 h).1

end Accounts

/-! ### Another login after a change of name -/

namespace Accounts.Returning

/-- A moment at which a user and their home are given new ids. -/
def moment (id : String) : Moment :=
  { Moment.epoch with ids := fun drawn => if drawn = 0 then id else id ++ "-home" }

/-- Ann and her home, when she has logged in for the first time. -/
def ann : User × Workspace :=
  ({ id := ⟨"ann"⟩
     name := "Ann"
     email := "ann@example.com"
     identities := [⟨"idp", "idp|ann"⟩]
     workspace := ⟨"ann-home"⟩
     profile := {}
     updatedAt := .epoch },
    { id := ⟨"ann-home"⟩
      name := "Ann"
      aliasName := ""
      email := ""
      profile := {}
      members := .ofOwner ⟨"ann"⟩ true
      policy := none
      updatedAt := .epoch })

/-- Ann logs in for the first time. -/
def arrival : Except Error (User × Workspace) × Directory :=
  (signupSubject none "idp|ann" "ann@example.com" "Ann").perform (moment "ann")
    { store := (Store.blank 0 none false).after [] }

/-- Then eve signs up, and ann changes her name. -/
def calls : List Call :=
  [{ moment := moment "eve"
     defaultPolicy := none
     operator := {}
     operation := .signup { name := "Eve", email := "eve@example.com" } },
   { moment := moment ""
     defaultPolicy := none
     operator := { user := some ⟨"ann"⟩ }
     operation := .updateMe { name := some "Anna" } }]

/-- Eve signs up under a new id. -/
theorem enrolsAfresh_calls : arrival.2.store.EnrolsAfresh calls := by
  refine ⟨?_, nofun, trivial⟩
  rintro _ ⟨⟩
  refine ⟨rfl, fun drawn => ?_⟩
  by_cases hdrawn : drawn = 0
  · subst hdrawn
    decide +kernel
  · have hid : (moment "eve").ids drawn = "eve-home" := if_neg hdrawn
    rw [hid]
    decide +kernel

/-- Ann is found as Anna when she logs in again, although the address is none and the name is that of
eve. -/
theorem logs_in_anna :
    ∃ user ws, user.id = ⟨"ann"⟩ ∧ user.name = "Anna" ∧
      (signupSubject none "idp|ann" "nowhere" "Eve").perform (moment "ann")
          { store := arrival.2.store.after calls } =
        (.ok (user, ws), { store := arrival.2.store.after calls }) := by
  have harrival : arrival.1 = .ok ann := by decide +kernel
  have hstays : ∀ call ∈ calls, call.operation = .removeMe → call.operator.user ≠ some ann.1.id := by
    simp [calls]
  obtain ⟨user, ws, huser, -, -, -, hlogin⟩ := (logs_in_for_good 0 none false []).2 none "idp|ann"
    "ann@example.com" "Ann" (moment "ann") 0 ann.1 ann.2 arrival.2 (Prod.ext harrival rfl) calls
    enrolsAfresh_calls hstays
  have hname : ((arrival.2.store.after calls).tables.users.get? ⟨"ann"⟩).map
      (fun user => (user.id, user.name)) = some (⟨"ann"⟩, "Anna") := by decide +kernel
  rw [show (arrival.2.store.after calls).tables.users.get? ⟨"ann"⟩ = some user from huser,
    Option.map_some] at hname
  obtain ⟨hid, hanna⟩ := Prod.mk.inj (Option.some.inj hname)
  exact ⟨user, ws, hid, hanna, hlogin none "nowhere" "Eve" (moment "ann") 0⟩

end Accounts.Returning

end Roster
